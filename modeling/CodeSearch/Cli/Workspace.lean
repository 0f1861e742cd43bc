import CodeSearch.Files.Tree
import CodeSearch.Store

/-!
# 作業する場所

ファイルの木と、その中に置かれた索引である。索引の中身は `Store` として持ち、
木のほうには置かれたディレクトリだけを残す。
-/

namespace CodeSearch

/-- ファイルの木と索引。 -/
structure Workspace where
  tree : FileTree := {}
  indexes : List (Location × Store) := []

namespace Workspace

/-- パスの先に何かがあるか。 -/
def contains (w : Workspace) (path : String) : Bool :=
  match Path.resolve path with
  | some place => (w.indexes.lookup place).isSome || w.tree.contains place
  | none => false

/-- ファイルの本文を読む。 -/
def readText (w : Workspace) (path : String) : Except Error String :=
  match (Path.resolve path).bind w.tree.content? with
  | none => .error (.io ("cannot read " ++ path))
  | some content =>
    match String.fromUTF8? content with
    | some text => .ok text
    | none => .error (.io "stream did not contain valid UTF-8")

/-- ファイルに本文を書く。 -/
def writeText (w : Workspace) (path text : String) : Workspace :=
  match Path.resolve path with
  | some place => { w with tree := w.tree.write place text.toUTF8 }
  | none => w

/-- 途中の名前に、ディレクトリでないものがあるか。 -/
def isBlocked (w : Workspace) (place : Location) : Bool :=
  (List.range place.length).any fun n => (w.tree.content? (place.take n)).isSome

/-- 場所にある索引を読む。空のファイルは空の索引とみなす。 -/
def loadIndex (w : Workspace) (path : String) (place : Location) (lexical : Bool) :
    Except Error Store :=
  match w.indexes.lookup place with
  | some s => .ok (s.reopen lexical)
  | none =>
    if w.isBlocked place then .error (.database "failed to create index directory: not a directory")
    else
      match w.tree.content? place with
      | some content =>
        if content.isEmpty then .ok (.empty lexical)
        else .error (.database "failed to create schema: file is not a database")
      | none =>
        if w.tree.isDirectory place then
          .error (.database
            ("failed to open database: unable to open database file: " ++ path))
        else .ok (.empty lexical)

/-- 索引を置く。途中のディレクトリも作る。 -/
def putIndex (w : Workspace) (place : Location) (s : Store) : Workspace :=
  { tree := (w.tree.erase place).makeDirectory place.dropLast
    indexes := w.indexes.filter (fun i => i.1 != place) ++ [(place, s)] }

/-- パスの先の索引を開く。なければ作る。 -/
def openIndex (w : Workspace) (path : String) (lexical : Bool) :
    Except Error (Location × Store × Workspace) :=
  match Path.resolve path with
  | none => .error (.database
      ("failed to open database: unable to open database file: " ++ path))
  | some place =>
    (w.loadIndex path place lexical).map fun s => (place, s, w.putIndex place s)

end Workspace

end CodeSearch
