import CodeSearch.Keyword.Query
import CodeSearch.Rank
import CodeSearch.Store
import CodeSearch.Vector

/-!
# 保存先の検索

ベクトルの近さで探す `Store.vectorSearch`、語で探す `Store.keywordSearch`、
二つの順位を合わせる `Store.hybridSearch` がある。

近さは距離の二乗で測る。距離の型 `α` は `Quantity` なら何でもよく、
測り方は関数 `Metric` で与える。実際に使うのは `Vec.metric` である。
語の索引に問う相手は `FullText` として受け取る。
-/

namespace CodeSearch

/-- 二つのベクトルの距離の二乗。 -/
abbrev Metric (α : Type) := Vec → Vec → α

/-- 単精度で測り、倍精度に広げた距離の二乗。 -/
def Vec.metric : Metric Float := fun a b => Vec.widen (Vec.squaredDistance a b)

namespace Store

open Quantity

variable {α : Type} [Quantity α]

/-- 検索できることを確かめる。 -/
def ensureReady (s : Store) (queryLength : Nat) : Except Error Unit :=
  match s.dimensions with
  | none => .error .indexNotReady
  | some d =>
    if s.rows.isEmpty then .error .indexNotReady
    else if d = queryLength then .ok ()
    else .error (.schemaMismatch d queryLength)

/-! ## 取る数 -/

/-- 取る数の上限。64 ビットに収まる最大の数である。 -/
def maxLimit : Nat := 18446744073709551615

/-- 倍の数。上限を超えるなら上限とする。 -/
def doubled (limit : Nat) : Nat := Nat.min (2 * limit) maxLimit

/-! ## ベクトルで探す -/

/-- 問い合わせと同じ長さのベクトルをもつ行と、その距離。 -/
def distances (metric : Metric α) (query : Vec) (rows : List Row) : List (α × Row) :=
  (rows.filter fun r => r.vector.length == query.length).map fun r => (metric query r.vector, r)

/-- 近い順、同じ距離なら番号の順に並べる。 -/
def nearest (scored : List (α × Row)) : List (α × Row) :=
  stableSort (fun a b => lt a.1 b.1 || (!lt b.1 a.1 && a.2.id < b.2.id)) scored

/-- 距離を類似度に直した検索の結果。 -/
def hitOf (scored : α × Row) : Hit α :=
  { chunk := scored.2.chunk, similarity := Rank.similarity scored.1 }

/-- 近い断片を、類似度が `floor` 以上のものから `limit` 個まで返す。
先に近いほうから倍の数をとり、それから類似度で落とす。 -/
def vectorSearch (metric : Metric α) (s : Store) (query : Vec) (limit : Nat) (floor : α) :
    Except Error (List (Hit α)) :=
  (s.ensureReady query.length).map fun _ =>
    let near := (nearest (distances metric query s.rows)).take (doubled limit)
    ((near.map hitOf).filter fun h => !lt h.similarity floor).take limit

/-! ## 語で探す -/

/-- 語の索引に式を問う。答えを得られなければ、保存先の失敗とする。 -/
def askKeywords (F : Keyword.FullText) (log : List Keyword.Command) (expression : String) :
    Except Error (List Nat) :=
  (F.search log expression).mapError fun detail =>
    .database ("failed to read keyword row: " ++ detail)

/-- 語のどれかをもつ行を、良いものから `limit` 個まで返す。語や索引がなければ何も返さない。 -/
def keywordRows (F : Keyword.FullText) (s : Store) (query : String) (limit : Nat) :
    Except Error (List Row) :=
  match s.keywords with
  | none => .ok []
  | some log =>
    let expression := Keyword.expression query
    if expression = "" then .ok []
    else
      (askKeywords F log expression).map fun ids =>
        (ids.filterMap fun id => s.rows.find? fun r => r.id == id).take limit

/-- 語のどれかをもつ断片を、良いものから `limit` 個まで返す。 -/
def keywordSearch (F : Keyword.FullText) (s : Store) (query : String) (limit : Nat) :
    Except Error (List Chunk) :=
  (s.keywordRows F query limit).map (List.map (·.chunk))

/-! ## 合わせて探す -/

/-- 語で見つけた行の、検索の結果としての形。 -/
def keywordHit (metric : Metric α) (query : Vec) (r : Row) : Hit α :=
  { chunk := r.chunk
    similarity :=
      if r.vector.length = query.length then Rank.similarity (metric query r.vector) else nat 0 }

/-- ベクトルと語の順位を統合し、`limit` 個まで返す。語の索引がなければベクトルだけで探す。 -/
def hybridSearch (F : Keyword.FullText) (metric : Metric α) (s : Store) (text : String)
    (query : Vec) (limit : Nat) (floor : α) (k : Nat) : Except Error (List (Hit α)) :=
  (s.vectorSearch metric query (doubled limit) floor).bind fun near =>
    if s.hasKeywords then
      (s.keywordRows F text (doubled limit)).map fun rows =>
        (Rank.fuse [near, rows.map (keywordHit metric query)] k).take limit
    else .ok (near.take limit)

end Store

end CodeSearch
