import CodeSearch.ChunkType

/-!
# 切れ目

切れ目は、断片を始める行である。見つけた順の列を、行の昇順で重複のない列に整える（`normalize`）。

* 同じ行の切れ目は、先に見つけたものを残す。
* 取り込みや公開の切れ目が続くときは、続きの先頭だけを残す。
-/

namespace CodeSearch

/-- 断片を始める行。 -/
structure Breakpoint where
  /-- 行番号。1 から数える。 -/
  line : Nat
  /-- 節から分かる種類。 -/
  kind : Option ChunkType := none
  /-- 見つけた深さ。 -/
  depth : Nat := 0
  deriving DecidableEq, Repr

namespace Breakpoint

/-- 取り込みか公開の切れ目か。 -/
def isModuleBoundary (p : Breakpoint) : Bool := p.kind.any (·.isModuleBoundary)

/-- 行の昇順に入れる。同じ行があれば入れない。 -/
def insertByLine (p : Breakpoint) : List Breakpoint → List Breakpoint
  | [] => [p]
  | q :: qs =>
    if p.line < q.line then p :: q :: qs
    else if p.line = q.line then q :: qs
    else q :: insertByLine p qs

/-- 行の昇順に並べ、同じ行は先のものだけを残す。 -/
def byLine (ps : List Breakpoint) : List Breakpoint :=
  ps.foldl (fun acc p => insertByLine p acc) []

/-- 取り込みや公開の続きを先頭だけにする。`inRun` は直前に残したものがそれかどうかである。 -/
def collapseFrom (inRun : Bool) : List Breakpoint → List Breakpoint
  | [] => []
  | p :: ps =>
    if p.isModuleBoundary && inRun then collapseFrom inRun ps
    else p :: collapseFrom p.isModuleBoundary ps

/-- 切れ目を整える。 -/
def normalize (ps : List Breakpoint) : List Breakpoint := collapseFrom false (byLine ps)

end Breakpoint

end CodeSearch
