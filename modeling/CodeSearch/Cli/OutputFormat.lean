import CodeSearch.Text.LetterCase

/-!
# 出力の形

人が読む文か、JSON かである。名前の大文字と小文字は区別しない。
-/

namespace CodeSearch

/-- 出力の形。 -/
inductive OutputFormat where
  | text | json
  deriving DecidableEq, Repr

namespace OutputFormat

/-- 形の名前。 -/
def name : OutputFormat → String
  | .text => "text"
  | .json => "json"

/-- 名前を読む。知らない名前なら、その小文字を添えて断る。 -/
def ofName (s : String) : Except String OutputFormat :=
  match Text.lowercase s with
  | "text" => .ok .text
  | "json" => .ok .json
  | other => .error ("unknown output format: " ++ other)

end OutputFormat

end CodeSearch
