import CodeSearch.Json.Writer
import CodeSearch.Cli.Report

/-!
# 点検の結果

設定・提供元・索引を一つずつ確かめた結果を並べる。だめなものには直し方を添える。
-/

namespace CodeSearch

/-- 点検の判定。 -/
inductive CheckStatus where
  | pass | fail | info
  deriving DecidableEq, Repr

namespace CheckStatus

/-- 判定の名前。 -/
def name : CheckStatus → String
  | .pass => "pass"
  | .fail => "fail"
  | .info => "info"

/-- 判定の印。 -/
def symbol : CheckStatus → String
  | .pass => "✓"
  | .fail => "✗"
  | .info => "~"

end CheckStatus

/-- 一つの点検の結果。 -/
structure Check where
  name : String
  status : CheckStatus
  detail : String
  /-- 直し方。 -/
  hint : Option String := none

namespace Check

/-- よい結果。 -/
def pass (name detail : String) : Check := { name, status := .pass, detail }

/-- 知らせるだけの結果。 -/
def info (name detail : String) : Check := { name, status := .info, detail }

/-- だめな結果。 -/
def fail (name detail hint : String) : Check := { name, status := .fail, detail, hint := some hint }

/-- 見出し。二十文字に揃える。 -/
def label (c : Check) : String :=
  let s := c.name.map fun ch => if ch = '_' then ' ' else ch
  s ++ String.ofList (List.replicate (20 - s.length) ' ')

/-- 結果の文。 -/
def lines (c : Check) : List String :=
  ["  " ++ c.status.symbol ++ " " ++ c.label ++ " " ++ c.detail]
    ++ (c.hint.map ("    hint: " ++ ·)).toList

/-- 結果の JSON。 -/
def json (c : Check) : Json :=
  .object ([("detail", .string c.detail)] ++ (c.hint.map fun h => ("hint", Json.string h)).toList
    ++ [("name", .string c.name), ("status", .string c.status.name)])

/-- だめだった点検の数。 -/
def failures (cs : List Check) : Nat := (cs.filter fun c => c.status == .fail).length

/-- 点検の結果の文。 -/
def reportText (version : String) (cs : List Check) : String :=
  Report.paragraph (["sift v" ++ version ++ " environment check", ""] ++ cs.flatMap lines
    ++ ["", toString cs.length ++ " checks, " ++ toString (failures cs) ++ " failed"])

/-- 点検の結果の JSON。 -/
def reportJson (version : String) (cs : List Check) : Json :=
  .object [("checks", .array (cs.map json)), ("version", .string version)]

end Check

end CodeSearch
