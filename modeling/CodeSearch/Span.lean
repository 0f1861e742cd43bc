import CodeSearch.Breakpoint
import CodeSearch.Chunk
import CodeSearch.Language
import CodeSearch.Text.Line

/-!
# 行の範囲

切れ目の列から、隙間なく並ぶ行の範囲を作り、断片に仕上げる。

1. 範囲は切れ目から次の切れ目の前の行までである。最初の範囲は必ず 1 行目から始まる（`ofBreakpoints`）。
2. 種類の分からない範囲は、中身から種類を推し量る。
3. 続く変数の範囲は、間の空行が少なければ一つにする（`mergeVariables`）。
4. 見積もりが予算を超える範囲は、行の境で切る（`splitToBudget`）。
5. 空白だけの範囲は捨て、残りに番号を振る（`assemble`）。
-/

namespace CodeSearch

/-- 語数の見積もり。文字数の四分の一を切り上げる。 -/
def estimateTokens (text : String) : Nat := (text.length + 3) / 4

/-- 行番号で引ける本文の行。 -/
structure SourceLines where
  lines : Array String

namespace SourceLines

/-- 本文を行に切る。 -/
def ofText (text : String) : SourceLines := ⟨(Text.lines text).toArray⟩

/-- 行数。 -/
def count (ls : SourceLines) : Nat := ls.lines.size

/-- 行の中身。範囲の外は空である。 -/
def line (ls : SourceLines) (n : Nat) : String :=
  if n = 0 then "" else ls.lines[n - 1]?.getD ""

/-- `first` から `last` までの行を改行でつないだもの。 -/
def slice (ls : SourceLines) (first last : Nat) : String :=
  "\n".intercalate ((ls.lines.extract (first - 1) last).toList)

/-- `first` から `last` までの行番号。 -/
def range (first last : Nat) : List Nat := List.range' first (last + 1 - first)

/-- 空白だけの行か。 -/
def isBlankLine (ls : SourceLines) (n : Nat) : Bool := Text.allBlank (ls.line n)

/-- 範囲のどの行も空白だけか。 -/
def isBlank (ls : SourceLines) (first last : Nat) : Bool :=
  (range first last).all ls.isBlankLine

/-- 範囲の中で、空白だけでない最後の行。どれも空白だけなら先頭の行。 -/
def lastContentLine (ls : SourceLines) (first last : Nat) : Nat :=
  ((range first last).reverse.find? (fun n => !ls.isBlankLine n)).getD first

end SourceLines

/-- 行の範囲。種類は分からないこともある。 -/
structure Span where
  first : Nat
  last : Nat
  kind : Option ChunkType := none
  deriving DecidableEq, Repr

/-- 種類の決まった行の範囲。 -/
structure TypedSpan where
  first : Nat
  last : Nat
  kind : ChunkType
  deriving DecidableEq, Repr

namespace Span

/-- 二つ目以降の範囲。`first` は今の範囲の始まり、`kind` はその種類である。 -/
def chain (lineCount : Nat) (first : Nat) (kind : Option ChunkType) :
    List Breakpoint → List Span
  | [] => [{ first, last := lineCount, kind }]
  | p :: ps => { first, last := p.line - 1, kind } :: chain lineCount p.line p.kind ps

/-- 整えた切れ目から、隙間のない範囲の列を作る。ファイルの外の切れ目は使わない。 -/
def ofBreakpoints (points : List Breakpoint) (lineCount : Nat) : List Span :=
  if lineCount = 0 then []
  else
    match points.filter (fun p => 1 ≤ p.line && p.line ≤ lineCount) with
    | [] => [{ first := 1, last := lineCount }]
    | p :: ps => chain lineCount 1 p.kind ps

end Span

namespace TypedSpan

/-- 一つにしてよい空行の数の上限。 -/
def maxMergeGap : Nat := 2

/-- 前の範囲 `a` と後ろの範囲 `b` を一つにするか。 -/
def merges (ls : SourceLines) (a b : TypedSpan) : Bool :=
  a.kind == .variable && b.kind == .variable
    && b.first - (ls.lastContentLine a.first a.last + 1) ≤ maxMergeGap

/-- 直前の範囲 `last` に続けて、変数の範囲をまとめる。 -/
def mergeFrom (ls : SourceLines) (last : TypedSpan) : List TypedSpan → List TypedSpan
  | [] => [last]
  | s :: rest =>
    if merges ls last s then mergeFrom ls { last with last := s.last } rest
    else last :: mergeFrom ls s rest

/-- 続く変数の範囲をまとめる。 -/
def mergeVariables (ls : SourceLines) : List TypedSpan → List TypedSpan
  | [] => []
  | s :: rest => mergeFrom ls s rest

/-- `first` から溜めた文字数 `chars` に、行を一つずつ加えながら切る。 -/
def splitLines (ls : SourceLines) (budget last : Nat) (kind : ChunkType) (first chars : Nat) :
    List Nat → List TypedSpan
  | [] => [{ first, last, kind }]
  | n :: rest =>
    let len := (ls.line n).length + 1
    if first < n && budget < (chars + len - 1 + 3) / 4 then
      { first, last := n - 1, kind } :: splitLines ls budget last kind n len rest
    else splitLines ls budget last kind first (chars + len) rest

/-- 見積もりが予算に収まるように、行の境で切る。一行で超えるものは切らない。予算 0 は無制限である。 -/
def splitToBudget (ls : SourceLines) (budget : Nat) (s : TypedSpan) : List TypedSpan :=
  if budget = 0 || estimateTokens (ls.slice s.first s.last) ≤ budget then [s]
  else splitLines ls budget s.last s.kind s.first 0 (SourceLines.range s.first s.last)

/-- 範囲を断片にする。 -/
def toChunk (path : String) (language : Language) (ls : SourceLines) (s : TypedSpan)
    (sequence : Nat) : Chunk :=
  .ofSpan path s.first s.last (ls.slice s.first s.last) s.kind language.name sequence

end TypedSpan

end CodeSearch
