import CodeSearch.Files.FileName

/-!
# ファイルの木

ファイルの場所を、根からの名前の列で表す。ディレクトリは、ファイルの場所の途中に現れるものと、
空のまま置かれたものである。

中身はバイトの列で持つ。文字の列として読めるのは、正しい UTF-8 のときだけである。
-/

namespace CodeSearch

/-- 根からの名前の列。 -/
abbrev Location := List FileName

/-- ファイルの木。 -/
structure FileTree where
  files : List (Location × ByteArray) := []
  /-- 置かれたディレクトリ。 -/
  directories : List Location := []

namespace FileTree

/-- `place` が `within` の中にあるか。同じ場所は中ではない。 -/
def isInside (within place : Location) : Bool := within.isPrefixOf place && within != place

/-- ファイルの中身。 -/
def content? (t : FileTree) (place : Location) : Option ByteArray := t.files.lookup place

/-- ディレクトリか。根はいつもディレクトリである。 -/
def isDirectory (t : FileTree) (place : Location) : Bool :=
  place == [] || t.files.any (fun f => isInside place f.1)
    || t.directories.any (fun d => place.isPrefixOf d)

/-- 何かがあるか。 -/
def contains (t : FileTree) (place : Location) : Bool :=
  (t.content? place).isSome || t.isDirectory place

/-- ファイルを書く。同じ場所のファイルは置き換える。 -/
def write (t : FileTree) (place : Location) (content : ByteArray) : FileTree :=
  { t with files := t.files.filter (fun f => f.1 != place) ++ [(place, content)] }

/-- ファイルを消す。 -/
def erase (t : FileTree) (place : Location) : FileTree :=
  { t with files := t.files.filter fun f => f.1 != place }

/-- ディレクトリを作る。 -/
def makeDirectory (t : FileTree) (place : Location) : FileTree :=
  if t.isDirectory place then t else { t with directories := t.directories ++ [place] }

end FileTree

namespace Path

/-- 名前の列をたどる。根より上には出られない。 -/
def resolveFrom (place : Location) : List String → Option Location
  | [] => some place
  | ".." :: rest => if place.isEmpty then none else resolveFrom place.dropLast rest
  | name :: rest => resolveFrom (place ++ [FileName.ofString name]) rest

/-- 根から見たパスの場所。根の外に出るものと、絶対パスにはない。 -/
def resolve (path : String) : Option Location :=
  if path.startsWith "/" then none else resolveFrom [] (components path)

/-- 二つのパスをつなぐ。後ろが絶対パスなら、それだけになる。 -/
def join (base path : String) : String :=
  if path.startsWith "/" || base = "" then path
  else if base.endsWith "/" then base ++ path
  else base ++ "/" ++ path

end Path

end CodeSearch
