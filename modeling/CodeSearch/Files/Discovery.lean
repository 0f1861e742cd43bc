import CodeSearch.Error
import CodeSearch.Files.Tree
import CodeSearch.Sorting

/-!
# ファイルを見つける

木をたどって、索引づけするファイルを集める。どの順にたどり、何を無視するかは、外の仕組み（`Walker`）が決める。
たどったもののうち、次のすべてに当てはまるファイルを集める。

* 拡張子から言語が分かる。
* 大きすぎず、正しい UTF-8 で、初めのほうに NUL がない。

名前は正しい UTF-8 とは限らないので、パスでは、読めない並びを一つの文字に置き換える。
-/

namespace CodeSearch

/-- 見つけたファイル。 -/
structure FoundFile where
  /-- 探し始めた場所からのパス。`/` で区切る。 -/
  path : String
  text : String
  language : Language

/-- 木をたどって出会うもの。 -/
inductive Entry where
  /-- 読めないもの。 -/
  | unreadable
  | directory (place : Location)
  | file (place : Location)

/-- ファイルなら、その場所。 -/
def Entry.file? : Entry → Option Location
  | .file place => some place
  | _ => none

/-- 場所から下の木をたどる仕組み。無視しないものに、たどる順に出会う。 -/
abbrev Walker := FileTree → Location → List Entry

namespace Discovery

/-! ## パス -/

/-- 場所から見た名前の列。場所の中になければ、根からの名前の列である。 -/
def namesFrom (root place : Location) : List FileName :=
  if root.isPrefixOf place then place.drop root.length else place

/-- 名前を `/` でつないだバイトの列。 -/
def joined (names : List FileName) : List UInt8 :=
  [FileName.slash].intercalate (names.map (·.bytes))

/-- 表示するパス。UTF-8 として読み、逆斜線も区切りとみなす。 -/
def shownPath (root place : Location) : String :=
  String.ofList ((Text.Utf8.decode (joined (namesFrom root place))).map fun c =>
    if c = '\\' then '/' else c)

/-! ## 集める -/

/-- 大きさの上限。 -/
def maxFileSize : Nat := 1048576

/-- NUL を探す範囲の大きさ。 -/
def binaryCheckSize : Nat := 8192

/-- 本文として読めるなら、その本文。 -/
def textOf (content : ByteArray) : Option String :=
  if maxFileSize < content.size then none
  else if (content.extract 0 binaryCheckSize).toList.contains 0 then none
  else String.fromUTF8? content

/-- 場所のファイルを索引づけするなら、その中身。 -/
def found? (t : FileTree) (root place : Location) : Option FoundFile :=
  let language := (place.getLast?.map FileName.language).getD .unknown
  if language = .unknown then none
  else
    ((t.content? place).bind textOf).map fun text =>
      { path := shownPath root place, text, language }

/-- たどって出会ったファイル。 -/
def visited (walk : Walker) (t : FileTree) (root : Location) : List Location :=
  (walk t root).filterMap Entry.file?

/-- 場所から下のファイルを、パスの順に集める。 -/
def gather (walk : Walker) (t : FileTree) (root : Location) : List FoundFile :=
  stableSort (fun a b => decide (a.path < b.path))
    ((visited walk t root).filterMap (found? t root))

/-- パスの指すディレクトリのファイルを集める。ディレクトリでなければ見つからない。 -/
def discover (walk : Walker) (t : FileTree) (path : String) : Except Error (List FoundFile) :=
  match Path.resolve path with
  | some root =>
    if t.isDirectory root then .ok (gather walk t root) else .error (.fileNotFound path)
  | none => .error (.fileNotFound path)

end Discovery

end CodeSearch
