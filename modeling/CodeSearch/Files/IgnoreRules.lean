import CodeSearch.Files.Glob
import CodeSearch.Files.Tree

/-!
# 無視する規則

`.gitignore` の書き方による規則である。一行が一つの規則で、後の規則ほど強い。

* 先頭の `!` は、無視しないことを表す。
* 末尾の `/` は、ディレクトリだけに合うことを表す。
* 途中か先頭に `/` があれば、規則を置いたディレクトリからのパス全体に合わせる。
  なければ、どの深さの名前にも合う。
-/

namespace CodeSearch

/-- 一つの規則。 -/
structure IgnoreRule where
  pattern : Pattern
  /-- 無視しないという規則か。 -/
  keeps : Bool := false
  /-- ディレクトリだけに合うか。 -/
  directoryOnly : Bool := false

/-- 規則の答え。 -/
inductive Verdict where
  | skip | keep | silent
  deriving DecidableEq, Repr

/-- 先の答えがなければ次の答えをとる。 -/
def Verdict.orElse (a b : Verdict) : Verdict :=
  match a with
  | .silent => b
  | _ => a

namespace IgnoreRule

/-- 末尾の空白を落とす。逃がした空白で終わる行はそのままにする。 -/
def trimLine (line : List Char) : List Char :=
  match line.reverse with
  | ' ' :: '\\' :: _ => line
  | _ => Text.trimEnd line

/-- 行の頭を読む。無視しない規則か、根に固定するか、残りを返す。 -/
def readHead : List Char → Bool × Bool × List Char
  | '\\' :: '!' :: rest => (false, false, '!' :: rest)
  | '\\' :: '#' :: rest => (false, false, '#' :: rest)
  | '!' :: '/' :: rest => (true, true, rest)
  | '!' :: rest => (true, false, rest)
  | '/' :: rest => (false, true, rest)
  | line => (false, false, line)

/-- 末尾の区切りを読む。ディレクトリだけの規則かと、残りを返す。 -/
def readTail (line : List Char) : Bool × List Char :=
  match line.reverse with
  | '/' :: '\\' :: rest => (true, rest.reverse)
  | '/' :: rest => (true, rest.reverse)
  | _ => (false, line)

/-- どの深さにも合わせるために補ったグロブ。末尾の `/**` は中だけに合わせる。 -/
def globOf (anchored : Bool) (line : List Char) : String :=
  let free := !anchored && !line.contains '/' && line != ['*', '*']
  let glob := String.ofList (if free then "**/".toList ++ line else line)
  if glob.endsWith "/**" then glob ++ "/*" else glob

/-- 一行を読む。空行と注釈、誤りのある行に規則はない。 -/
def ofLine? (line : String) : Option IgnoreRule :=
  let text := line.toList
  if text.head? == some '#' then none
  else
    match trimLine text with
    | [] => none
    | trimmed =>
      let (keeps, anchored, rest) := readHead trimmed
      let (directoryOnly, body) := readTail rest
      (Glob.read? (globOf anchored body)).map fun ts =>
        { pattern := Glob.pattern ts, keeps, directoryOnly }

/-- 規則の答え。 -/
def verdict (r : IgnoreRule) (path : List UInt8) (isDirectory : Bool) : Verdict :=
  if (r.directoryOnly && !isDirectory) || !Glob.isMatch r.pattern path then .silent
  else if r.keeps then .keep
  else .skip

/-- 規則の列の答え。後の規則ほど強い。 -/
def verdictOf (rules : List IgnoreRule) (path : List UInt8) (isDirectory : Bool) : Verdict :=
  rules.foldl (fun v r => (r.verdict path isDirectory).orElse v) .silent

/-! ## 規則のファイル -/

/-- バイトの列を改行で切る。途中の行は逆順で持つ。 -/
def splitLines (current : List UInt8) : List UInt8 → List (List UInt8)
  | [] => if current.isEmpty then [] else [current.reverse]
  | b :: rest =>
    if b = 10 then
      (match current with
        | 13 :: before => before.reverse
        | _ => current.reverse) :: splitLines [] rest
    else splitLines (b :: current) rest

/-- 読める行。正しい UTF-8 でない行から先は読まない。 -/
def readableLines : List (List UInt8) → List String
  | [] => []
  | l :: ls =>
    match String.fromUTF8? (ByteArray.mk l.toArray) with
    | some s => s :: readableLines ls
    | none => []

/-- 先頭の印を落とす。 -/
def dropMark : List String → List String
  | [] => []
  | l :: ls =>
    (match l.toList with
      | '\uFEFF' :: rest => String.ofList rest
      | _ => l) :: ls

/-- ファイルの規則。 -/
def ofContent (content : ByteArray) : List IgnoreRule :=
  (dropMark (readableLines (splitLines [] content.toList))).filterMap ofLine?

end IgnoreRule

end CodeSearch
