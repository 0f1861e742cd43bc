import CodeSearch.Identifier
import CodeSearch.Text.Blank
import CodeSearch.Text.LetterCase

/-!
# 語の問い合わせ

語の索引が受け取る式は、引用符で囲んだ語を ` OR ` でつないだものである。
利用者の書いた文からは、次の語を重ならないように集めて式にする。

* 空白で区切った語から英数字と下線だけを残し、小文字にしたもの
* 文の識別子を分けた語

どの語にも引用符は現れないので、文に何が書いてあっても式の形は崩れない。
-/

namespace CodeSearch.Keyword

/-! ## 式の読み書き -/

/-- 語を引用符で囲む。 -/
def quoted (word : List Char) : List Char := '"' :: word ++ ['"']

/-- 式の二つ目からの語を書く。 -/
def renderRest : List (List Char) → List Char
  | [] => []
  | w :: ws => " OR ".toList ++ quoted w ++ renderRest ws

/-- 式を書く。語がなければ空である。 -/
def render : List (List Char) → List Char
  | [] => []
  | w :: ws => quoted w ++ renderRest ws

/-- 引用符で囲んだ語を読み、残りを返す。途中の語は逆順で持つ。 -/
def readQuoted (current : List Char) : List Char → Option (List Char × List Char)
  | [] => none
  | c :: rest =>
    if c = '"' then some (current.reverse, rest) else readQuoted (c :: current) rest

theorem length_readQuoted {current cs : List Char} {w rest : List Char}
    (h : readQuoted current cs = some (w, rest)) : rest.length < cs.length := by
  induction cs generalizing current with
  | nil => simp [readQuoted] at h
  | cons c cs ih =>
    unfold readQuoted at h
    split at h
    · simp only [Option.some.injEq, Prod.mk.injEq] at h
      simp [h.2]
    · exact Nat.lt_succ_of_lt (ih h)

/-- 式の残りを読む。つなぎの後には語が要る。 -/
def readRest (cs : List Char) : Option (List (List Char)) :=
  match cs with
  | [] => some []
  | ' ' :: 'O' :: 'R' :: ' ' :: '"' :: cs =>
    match _h : readQuoted [] cs with
    | none => none
    | some (w, rest) => (readRest rest).map (w :: ·)
  | _ => none
  termination_by cs.length
  decreasing_by
    have := length_readQuoted _h
    simp only [List.length_cons]
    omega

/-- 式を読む。 -/
def read? : List Char → Option (List (List Char))
  | [] => some []
  | '"' :: cs =>
    match readQuoted [] cs with
    | none => none
    | some (w, rest) => (readRest rest).map (w :: ·)
  | _ => none

/-! ## 利用者の文 -/

/-- 問い合わせに残す文字か。 -/
def isQueryChar (c : Char) : Bool := Text.isAlphanumeric c || c == '_'

/-- 空白で区切った語から、残す文字だけをとって小文字にしたもの。 -/
def plainWords (query : String) : List String :=
  (Text.blankWords query).map fun w => Text.lowercase (String.ofList (w.filter isQueryChar))

/-- 問い合わせの語。空の語はなく、重なりもない。 -/
def queryWords (query : String) : List String :=
  ((plainWords query ++ Identifier.tokenize query).filter (· ≠ "")).eraseDups

/-- 利用者の文の式。 -/
def expression (query : String) : String :=
  String.ofList (render ((queryWords query).map String.toList))

end CodeSearch.Keyword
