import CodeSearch.Text.Alphanumeric
import CodeSearch.Text.Blank

/-!
# 文字の並びの型（パターン）

行や本文の形を見分けるための、小さな正規表現である。
照合は後戻りではなく、**あり得る終わり方を優先順に並べた列**として意味を与える（`Pattern.run`）。
`seq` は列の合成、`alt` は列の連結なので、最初の終わり方が「左から・長いほう優先」の照合になる。

## 停止性

`run` はパターンについて構造的に再帰する。
群の繰り返しだけは残りの文字数を上限にし、一回ごとに必ず文字を消費したものだけを続ける。

## 取り出し

取り出せる部分は一つだけで、`capture` が囲んだ文字の並びである。
-/

namespace CodeSearch

/-- パターン。 -/
inductive Pattern where
  /-- 何も消費しない。 -/
  | empty
  /-- 条件を満たす一文字。 -/
  | one (p : Char → Bool)
  /-- 条件を満たす文字の、零個以上の並び。長いほうを先に試す。 -/
  | many (p : Char → Bool)
  /-- 本文の先頭。 -/
  | textStart
  /-- 本文の末尾。 -/
  | textEnd
  /-- 行の先頭。 -/
  | lineStart
  /-- 単語文字とそれ以外の境目。 -/
  | wordEdge
  /-- 続けて照合する。 -/
  | seq (a b : Pattern)
  /-- 先に `a`、だめなら `b`。 -/
  | alt (a b : Pattern)
  /-- 零回以上の繰り返し。多いほうを先に試す。 -/
  | star (a : Pattern)
  /-- 照合した部分を取り出す。 -/
  | capture (a : Pattern)

namespace Pattern

/-- 照合の途中の位置。直前の文字と、残りと、取り出した部分をもつ。 -/
structure Cursor where
  before : Option Char
  rest : List Char
  taken : Nat
  captured : Option (List Char)

namespace Cursor

/-- 本文の先頭の位置。 -/
def ofText (cs : List Char) : Cursor := ⟨none, cs, 0, none⟩

/-- 次の文字が単語文字か。 -/
def nextIsWord (c : Cursor) : Bool := (c.rest.head?.map Text.isWordChar).getD false

/-- 直前の文字が単語文字か。 -/
def prevIsWord (c : Cursor) : Bool := (c.before.map Text.isWordChar).getD false

end Cursor

/-- 条件を満たす文字を続けて読み、止まれる位置を長い順に並べる。 -/
def runMany (p : Char → Bool) (captured : Option (List Char)) (stops : List Cursor)
    (before : Option Char) (taken : Nat) : List Char → List Cursor
  | [] => ⟨before, [], taken, captured⟩ :: stops
  | x :: xs =>
    let here : Cursor := ⟨before, x :: xs, taken, captured⟩
    if p x then runMany p captured (here :: stops) (some x) (taken + 1) xs else here :: stops

/-- 一回分の照合 `step` を、文字を消費する限り高々 `bound` 回繰り返す。 -/
def runStar (step : Cursor → List Cursor) : Nat → Cursor → List Cursor
  | 0, c => [c]
  | bound + 1, c =>
    ((step c).filter (fun d => c.taken < d.taken)).flatMap (runStar step bound) ++ [c]

/-- あり得る終わり方を優先順に並べる。 -/
def run : Pattern → Cursor → List Cursor
  | empty, c => [c]
  | one p, c =>
    match c.rest with
    | [] => []
    | x :: xs => if p x then [{ c with before := some x, rest := xs, taken := c.taken + 1 }] else []
  | many p, c => runMany p c.captured [] c.before c.taken c.rest
  | textStart, c => if c.before.isNone then [c] else []
  | textEnd, c => if c.rest.isEmpty then [c] else []
  | lineStart, c => if c.before.isNone || c.before == some '\n' then [c] else []
  | wordEdge, c => if c.prevIsWord != c.nextIsWord then [c] else []
  | seq a b, c => (run a c).flatMap (run b)
  | alt a b, c => run a c ++ run b c
  | star a, c => runStar (run a) c.rest.length c
  | capture a, c =>
    (run a c).map (fun d => { d with captured := some (c.rest.take (d.taken - c.taken)) })

/-- 左から順に始まりを変えて、最初に照合した終わり方を返す。 -/
def findFrom (p : Pattern) (before : Option Char) (taken : Nat) : List Char → Option Cursor
  | [] => (run p ⟨before, [], taken, none⟩).head?
  | x :: xs =>
    match (run p ⟨before, x :: xs, taken, none⟩).head? with
    | some c => some c
    | none => findFrom p (some x) (taken + 1) xs

/-- 本文のどこかに照合するか。 -/
def isMatch (p : Pattern) (s : String) : Bool := (findFrom p none 0 s.toList).isSome

/-- 最初の照合で取り出した部分。 -/
def firstCapture (p : Pattern) (s : String) : Option String :=
  ((findFrom p none 0 s.toList).bind (·.captured)).map String.ofList

/-! ## 組み立て -/

/-- 並べて照合する。 -/
def seqs (ps : List Pattern) : Pattern := ps.foldr seq empty

/-- 先のものを優先して、どれか一つを照合する。 -/
def anyOf : List Pattern → Pattern
  | [] => one (fun _ => false)
  | [p] => p
  | p :: ps => alt p (anyOf ps)

/-- あってもなくてもよい。 -/
def maybe (p : Pattern) : Pattern := alt p empty

/-- 一回以上の繰り返し。 -/
def plus (p : Pattern) : Pattern := seq p (star p)

/-- 一文字以上の並び。 -/
def some1 (p : Char → Bool) : Pattern := seq (one p) (many p)

/-- 決まった文字の並び。 -/
def lit (s : String) : Pattern := seqs (s.toList.map fun c => one (· == c))

/-- 決まった文字の並びのどれか。 -/
def words (ws : List String) : Pattern := anyOf (ws.map lit)

/-- 零個以上の空白。 -/
def blanks : Pattern := many Text.isBlank

/-- 一個以上の空白。 -/
def gap : Pattern := some1 Text.isBlank

/-- 単語文字の並び。 -/
def word : Pattern := some1 Text.isWordChar

/-- 語とその後ろの空白。 -/
def term (s : String) : Pattern := seq (lit s) gap

/-- あってもよい語とその後ろの空白。 -/
def maybeTerm (s : String) : Pattern := maybe (term s)

/-- 語のどれかとその後ろの空白。 -/
def termOf (ws : List String) : Pattern := seq (words ws) gap

/-- 丸括弧で囲んだ部分。内側に閉じ括弧は入らない。 -/
def parens : Pattern := seqs [lit "(", many (· != ')'), lit ")"]

/-- 文字の列に入る一文字か。 -/
def isIn (s : String) (c : Char) : Bool := s.toList.contains c

/-- ASCII の英字か。 -/
def isLetter (c : Char) : Bool := c.isAlpha

/-- 識別子の先頭に立つ文字か。英字と下線である。 -/
def isNameStart (c : Char) : Bool := c.isAlpha || c == '_'

end Pattern

end CodeSearch
