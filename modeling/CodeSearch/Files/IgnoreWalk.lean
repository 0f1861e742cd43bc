import CodeSearch.Files.Discovery
import CodeSearch.Files.IgnoreRules

/-!
# 無視する規則に従ってたどる

木のファイルのうち、自分も途中のディレクトリも無視されていないものに出会う。隠れた名前は、残す規則がない限り
無視する。

規則は `.ignore` と、Git の管理下にあれば `.gitignore` と `.git/info/exclude` から読む。
`.ignore` がもっとも強く、深いディレクトリの規則ほど強い。
Git の規則は、もっとも近い管理の根までをさかのぼって読む。
-/

namespace CodeSearch

namespace IgnoreWalk

/-! ## 無視する規則 -/

/-- 置かれたファイルの規則。 -/
def rulesAt (t : FileTree) (place : Location) : List IgnoreRule :=
  ((t.content? place).map IgnoreRule.ofContent).getD []

/-- Git の管理の根か。 -/
def isGitRoot (t : FileTree) (directory : Location) : Bool :=
  t.contains (directory ++ ([".git"] : Location))

/-- 場所の親からさかのぼったディレクトリ。近いものから並ぶ。 -/
def ancestors (place : Location) : List Location :=
  ((List.range place.length).map fun n => place.take n).reverse

/-- ディレクトリに置かれた規則の答え。 -/
def verdictAt (t : FileTree) (rules : Location) (place : Location) (isDirectory : Bool)
    (directory : Location) : Verdict :=
  IgnoreRule.verdictOf (rulesAt t (directory ++ rules))
    (Discovery.joined (Discovery.namesFrom directory place)) isDirectory

/-- 近いディレクトリから順に、最初の答えをとる。 -/
def firstVerdict (verdict : Location → Verdict) : List Location → Verdict
  | [] => .silent
  | d :: ds => (verdict d).orElse (firstVerdict verdict ds)

/-- 近いものから管理の根までのディレクトリ。管理の根がなければ空である。 -/
def gitScope (t : FileTree) (directories : List Location) : List Location :=
  if directories.any (isGitRoot t) then
    directories.take (directories.findIdx (isGitRoot t) + 1)
  else []

/-- 場所についての規則の答え。 -/
def verdict (t : FileTree) (place : Location) (isDirectory : Bool) : Verdict :=
  let directories := ancestors place
  let ask := fun rules => firstVerdict (verdictAt t rules place isDirectory)
  ((ask [".ignore"] directories).orElse (ask [".gitignore"] (gitScope t directories))).orElse
    (ask [".git", "info", "exclude"] (gitScope t directories))

/-- 無視する場所か。 -/
def isSkipped (t : FileTree) (place : Location) (isDirectory : Bool) : Bool :=
  match verdict t place isDirectory with
  | .skip => true
  | .keep => false
  | .silent => (place.getLast?.map FileName.isHidden).getD false

/-! ## たどる -/

/-- 途中のディレクトリも自分も無視されていないか。 -/
def isReached (t : FileTree) (root place : Location) : Bool :=
  (List.range (place.length - root.length)).all fun n =>
    let k := root.length + n + 1
    !isSkipped t (place.take k) (k < place.length)

end IgnoreWalk

/-- 無視する規則に従ってたどる仕組み。 -/
def Walker.builtin : Walker := fun t root =>
  ((t.files.map Prod.fst).filter fun place =>
    FileTree.isInside root place && IgnoreWalk.isReached t root place).map .file

end CodeSearch
