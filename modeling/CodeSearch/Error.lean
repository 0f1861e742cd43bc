/-!
# 失敗の原因

どこで何が起きたかを原因ごとに分けて表す。文面は `Error.message` だけが決める。

致命的な失敗（`Error.isFatal`）は索引づけ全体を止める。
それ以外は断片やファイルごとの記録に残して先へ進む。
-/

namespace CodeSearch

/-- 失敗の原因。 -/
inductive Error where
  /-- ファイルの読み書き。 -/
  | io (detail : String)
  /-- 設定の誤りや不足。 -/
  | config (detail : String)
  /-- 構文の誤り。 -/
  | parse (detail : String)
  /-- 埋め込みの提供元に届かない、またはモデルがない。 -/
  | providerUnavailable (detail : String)
  /-- 埋め込みの要求の失敗。 -/
  | embedding (detail : String)
  /-- 索引の次元と違う長さのベクトル。 -/
  | schemaMismatch (existing requested : Nat)
  /-- 何も索引づけしていない。 -/
  | indexNotReady
  /-- 保存先の失敗。 -/
  | database (detail : String)
  /-- JSON の読み書き。 -/
  | serialization (detail : String)
  /-- 設定ファイルの書式。 -/
  | toml (detail : String)
  /-- 必要なファイルがない。 -/
  | fileNotFound (path : String)
  deriving DecidableEq, Repr, Inhabited

namespace Error

/-- 利用者に見せる文面。 -/
def message : Error → String
  | .io detail => "IO error: " ++ detail
  | .config detail => "configuration error: " ++ detail
  | .parse detail => "parse error: " ++ detail
  | .providerUnavailable detail => "embedding provider unavailable: " ++ detail
  | .embedding detail => "embedding error: " ++ detail
  | .schemaMismatch existing requested =>
    "index was built with " ++ toString existing ++ "-dimensional vectors but "
      ++ toString requested ++ " were supplied"
  | .indexNotReady => "index is not ready: nothing has been indexed yet"
  | .database detail => "database error: " ++ detail
  | .serialization detail => "serialization error: " ++ detail
  | .toml detail => "TOML parse error: " ++ detail
  | .fileNotFound path => "file not found: " ++ path

/-- 索引づけ全体を止める失敗か。 -/
def isFatal : Error → Bool
  | .config _ | .providerUnavailable _ | .schemaMismatch _ _ | .database _ => true
  | _ => false

end Error

end CodeSearch
