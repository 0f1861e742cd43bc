import CodeSearch.Keyword.FullText
import CodeSearch.Keyword.Query
import CodeSearch.Keyword.Token
import CodeSearch.Sorting
import CodeSearch.Total

/-!
# 手元の全文索引

全文索引の仕組みを、手元で動かせる形に書いたものである。行の番号ごとに、二つの欄の検索語を持つ。

問い合わせの語はそれぞれ検索語に切り、続けて現れる並び（句）として探す。
句は一つの欄の中に収まっていなければならない。どれかの句をもつ行が答えになる。

点は BM25 である。行に多く現れ、ほかの行に現れない句ほど高く、長い行ほど低い。
-/

namespace CodeSearch.Keyword

/-- 一つの行の検索語。 -/
structure Entry where
  row : Nat
  text : List String
  terms : List String
  deriving DecidableEq, Repr

namespace Entry

/-- 行の中身から作る。 -/
def ofDocument (d : Document) : Entry :=
  { row := d.row, text := tokens d.text, terms := tokens d.terms }

/-- 検索語の数。 -/
def size (e : Entry) : Nat := e.text.length + e.terms.length

end Entry

/-! ## 句 -/

/-- 句。続けて現れる検索語の並びである。 -/
abbrev Phrase := List String

/-- 欄の中で句が現れる回数。空の句は現れない。 -/
def occurrences (p : Phrase) : List String → Nat
  | [] => 0
  | t :: ts =>
    (if !p.isEmpty && p.isPrefixOf (t :: ts) then 1 else 0) + occurrences p ts

/-- 行の中で句が現れる回数。 -/
def Entry.frequency (e : Entry) (p : Phrase) : Nat :=
  occurrences p e.text + occurrences p e.terms

/-- どれかの句をもつか。 -/
def Entry.matchesAny (e : Entry) (ps : List Phrase) : Bool := ps.any fun p => 0 < e.frequency p

/-! ## 点 -/

/-- 句の珍しさ。ありふれた句にもわずかな点を残す。 -/
def rarity (entries : List Entry) (p : Phrase) : Float :=
  let hits := (entries.filter fun e => 0 < e.frequency p).length
  let x := Float.log ((Float.ofNat (entries.length - hits) + 0.5) / (Float.ofNat hits + 0.5))
  if x ≤ 0 then 1e-6 else x

/-- 行の平均の長さ。 -/
def averageSize (entries : List Entry) : Float :=
  Float.ofNat (sumOf (entries.map (·.size))) / Float.ofNat entries.length

/-- 一つの句の点。 -/
def weight (average rarity : Float) (size frequency : Nat) : Float :=
  let f := Float.ofNat frequency
  rarity * (f * 2.2 / (f + 1.2 * (0.25 + 0.75 * Float.ofNat size / average)))

/-- 行の点。`ps` は句とその珍しさである。 -/
def score (average : Float) (ps : List (Phrase × Float)) (e : Entry) : Float :=
  ps.foldl (fun total p => total + weight average p.2 e.size (e.frequency p.1)) 0

/-! ## 問い合わせ -/

/-- 点の高い順、同点なら行の番号の順に並べる。 -/
def ranked (scored : List (Float × Entry)) : List (Float × Entry) :=
  stableSort (fun a b => a.1 > b.1 || (!(a.1 < b.1) && a.2.row < b.2.row)) scored

/-- どれかの句をもつ行の番号。良いものから並ぶ。 -/
def matching (entries : List Entry) (ps : List Phrase) : List Nat :=
  let weighted := ps.map fun p => (p, rarity entries p)
  let average := averageSize entries
  (ranked ((entries.filter (·.matchesAny ps)).map fun e => (score average weighted e, e))).map
    (·.2.row)

/-- 手元の全文索引。読めない式は断る。 -/
def FullText.builtin : FullText where
  search log expression :=
    match read? expression.toList with
    | some ws =>
      .ok (matching ((documents log).map Entry.ofDocument)
        (ws.map fun w => tokens (String.ofList w)))
    | none => .error "fts5: syntax error"

end CodeSearch.Keyword
