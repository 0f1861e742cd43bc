import CodeSearch.Text.Blank

/-!
# 行

本文を行に切る。行は改行で終わり、最後の行だけは改行がなくてもよい。
改行の直前の復帰は行に含めない。最後の改行の後ろに何もなければ、そこに行はない。

行番号は 1 から数える。範囲の外の行は空とみなす。
-/

namespace CodeSearch.Text

/-- 逆順に溜めた行を閉じる。改行の直前の復帰を一つ落とす。 -/
def closeLine : List Char → List Char
  | '\r' :: rest => rest.reverse
  | cs => cs.reverse

/-- 溜めた文字を `current` に逆順で持ちながら、行に切る。 -/
def linesFrom (current : List Char) : List Char → List (List Char)
  | [] => if current.isEmpty then [] else [current.reverse]
  | c :: rest =>
    if c = '\n' then closeLine current :: linesFrom [] rest
    else linesFrom (c :: current) rest

/-- 本文の行。 -/
def lines (s : String) : List String := (linesFrom [] s.toList).map String.ofList

/-- `cs` の前に `pat` が立っているか。 -/
def startsWith (pat : String) (cs : List Char) : Bool := pat.toList.isPrefixOf cs

/-- `cs` のどこかに `pat` が現れるか。 -/
def hasInfix (pat : List Char) : List Char → Bool
  | [] => pat.isEmpty
  | c :: rest => pat.isPrefixOf (c :: rest) || hasInfix pat rest

/-- `s` のどこかに `pat` が現れるか。 -/
def occursIn (pat s : String) : Bool := hasInfix pat.toList s.toList

end CodeSearch.Text
