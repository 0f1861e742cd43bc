import CodeSearch.Text.Toggle

/-!
# 空白（Unicode の White_Space）

空白文字の判定と、両端の空白を落とす操作をもつ。
行が空白だけかどうかは、すべての文字が空白であることとして言う。
-/

namespace CodeSearch.Text

/-- White_Space 属性の切替点。 -/
def blankToggles : List Nat :=
  [0x9, 0xE, 0x20, 0x21, 0x85, 0x86, 0xA0, 0xA1, 0x1680, 0x1681, 0x2000, 0x200B, 0x2028, 0x202A,
    0x202F, 0x2030, 0x205F, 0x2060, 0x3000, 0x3001]

/-- 空白文字か。 -/
def isBlank (c : Char) : Bool := Toggle.contains blankToggles c.toNat

/-- 改行は空白である。 -/
theorem isBlank_newline : isBlank '\n' = true := by decide

/-- 空白だけの文字列か。空文字列も含む。 -/
def allBlank (s : String) : Bool := s.toList.all isBlank

/-- 前の空白を落とす。 -/
def trimStart (cs : List Char) : List Char := cs.dropWhile isBlank

/-- 後ろの空白を落とす。 -/
def trimEnd (cs : List Char) : List Char := (cs.reverse.dropWhile isBlank).reverse

/-- 両端の空白を落とす。 -/
def trim (cs : List Char) : List Char := trimEnd (trimStart cs)

/-- 空白で区切った、空でない語の列。途中の語は逆順で持つ。 -/
def blankWordsFrom (current : List Char) : List Char → List (List Char)
  | [] => if current.isEmpty then [] else [current.reverse]
  | c :: rest =>
    if isBlank c then
      if current.isEmpty then blankWordsFrom [] rest
      else current.reverse :: blankWordsFrom [] rest
    else blankWordsFrom (c :: current) rest

/-- 空白で区切った、空でない語の列。 -/
def blankWords (s : String) : List (List Char) := blankWordsFrom [] s.toList

end CodeSearch.Text
