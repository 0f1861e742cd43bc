import CodeSearch.Text.Alphanumeric
import CodeSearch.Text.LetterCase

/-!
# 識別子の語

識別子を、書き方の流儀によらず小文字の語に分ける。
英数字以外の文字は区切りになる。大文字の前では、次のどれかのときに分ける。

* 直前が小文字である（`getUser`）
* 直前が ASCII の数字である（`user2FA`）
* 直前が大文字で、次が小文字である（`HTTPServer`）

本文の識別子は、ASCII の英字・下線・ドル記号で始まり、数字も続くものである。
-/

namespace CodeSearch.Identifier

/-! ## 一つの識別子を分ける -/

/-- 英数字だけの部分に切る。途中の部分は逆順で持つ。 -/
def partsFrom (current : List Char) : List Char → List (List Char)
  | [] => [current.reverse]
  | c :: rest =>
    if Text.isAlphanumeric c then partsFrom (c :: current) rest
    else current.reverse :: partsFrom [] rest

/-- 直前の文字 `prev` と次の文字の間の `c` の前で分けるか。 -/
def isBoundary (prev c : Char) (next : Option Char) : Bool :=
  Text.isUppercase c &&
    (Text.isLowercase prev || prev.isDigit
      || (Text.isUppercase prev && next.any Text.isLowercase))

/-- 部分を語に分ける。`prev` は直前の文字、`current` は途中の語を逆順にしたものである。 -/
def wordsFrom (prev : Option Char) (current : List Char) : List Char → List (List Char)
  | [] => if current.isEmpty then [] else [current.reverse]
  | c :: rest =>
    if prev.any (fun p => isBoundary p c rest.head?) && !current.isEmpty then
      current.reverse :: wordsFrom (some c) (Text.lowerChars c).reverse rest
    else wordsFrom (some c) ((Text.lowerChars c).reverse ++ current) rest

/-- 識別子を小文字の語に分ける。 -/
def split (identifier : String) : List String :=
  ((partsFrom [] identifier.toList).flatMap (wordsFrom none [])).map String.ofList

/-! ## 本文の識別子 -/

/-- 識別子の先頭に立つ文字か。 -/
def isStart (c : Char) : Bool := c.isAlpha || c == '_' || c == '$'

/-- 識別子に続く文字か。 -/
def isRest (c : Char) : Bool := isStart c || c.isDigit

/-- 本文の識別子を前から拾う。途中の識別子は逆順で持つ。 -/
def scanFrom (current : List Char) : List Char → List (List Char)
  | [] => if current.isEmpty then [] else [current.reverse]
  | c :: rest =>
    if current.isEmpty then
      if isStart c then scanFrom [c] rest else scanFrom [] rest
    else if isRest c then scanFrom (c :: current) rest
    else current.reverse :: scanFrom [] rest

/-- 本文の識別子。 -/
def scan (text : String) : List String := (scanFrom [] text.toList).map String.ofList

/-- 二文字以上の語か。 -/
def isLong (word : String) : Bool := 1 < word.length

/-- 本文の語。識別子は分け、一文字の語は捨てる。 -/
def tokenize (text : String) : List String := ((scan text).flatMap split).filter isLong

/-- 二語以上に分かれる識別子の語。 -/
def compoundWords (text : String) : List String :=
  (((scan text).map split).filter (fun ws => 2 ≤ ws.length)).flatten.filter isLong

/-- 二語以上に分かれる識別子の、重複のない語。現れた順である。 -/
def allTerms (text : String) : List String := (compoundWords text).eraseDups

/-! ## 識別子の語を集める -/

/-- 一つの識別子の語を、集めた語の後ろに順に加える。一文字の語と、もう集めた語は加えない。
加えて `limit` 個に達したら、残りを見ずに終える。終えたかどうかを添えて返す。 -/
def gatherWords (limit : Nat) (found : List String) : List String → List String × Bool
  | [] => (found, false)
  | word :: words =>
    if isLong word && !found.contains word then
      if limit ≤ found.length + 1 then (found ++ [word], true)
      else gatherWords limit (found ++ [word]) words
    else gatherWords limit found words

/-- 識別子を前から順に分け、二語以上に分かれるものの語を集める。 -/
def gatherTerms (limit : Nat) (found : List String) : List String → List String
  | [] => found
  | identifier :: rest =>
    if (split identifier).length < 2 then gatherTerms limit found rest
    else
      match gatherWords limit found (split identifier) with
      | (found, true) => found
      | (found, false) => gatherTerms limit found rest

/-- 二語以上に分かれる識別子の、重複のない語を、現れた順に `limit` 個まで集めたもの。
数は語を加えた後で確かめるので、語があれば、`limit` が 0 でも一つは返す。 -/
def terms (text : String) (limit : Nat) : List String := gatherTerms limit [] (scan text)

end CodeSearch.Identifier
