import CodeSearch.Error
import CodeSearch.Sorting
import CodeSearch.Store.Row

/-!
# 断片の保存

ベクトルの付いた断片を行として持つ。行には番号が付き、番号は使い回さない。

* 最初の書き込みがベクトルの長さを決める。以後、違う長さのベクトルは断る。
* 同じ名前の断片は、番号を変えずに中身だけを入れ替える。
* ファイルを入れ替えると、古い行と記録が消える。断ったときは何も変わらない。
* 語の索引は最初の書き込みのときに作り、行が変わるたびに命令を送って合わせる。

行の列と、断片との行き来は `Row` にある。
-/

namespace CodeSearch

/-- 断片の保存先。 -/
structure Store where
  /-- 語の索引を作るか。 -/
  lexical : Bool := true
  /-- 行。番号の順に並ぶ。 -/
  rows : List Row := []
  /-- 最後に使った番号。 -/
  lastId : Nat := 0
  /-- ベクトルの長さ。 -/
  dimensions : Option Nat := none
  /-- ファイルごとの内容の要約。 -/
  hashes : List (String × String) := []
  /-- 語の索引に送った命令。索引を作っていなければない。 -/
  keywords : Option (List Keyword.Command) := none

namespace Store

/-- 空の保存先。 -/
def empty (lexical : Bool) : Store := { lexical }

/-- 保存先を開き直す。中身は変わらない。 -/
def reopen (s : Store) (lexical : Bool) : Store := { s with lexical }

/-! ## 行の出し入れ -/

/-- 語の索引があれば、命令を送る。 -/
def tell (s : Store) (commands : List Keyword.Command) : Option (List Keyword.Command) :=
  s.keywords.map (· ++ commands)

/-- 行を足す。 -/
def addRow (s : Store) (c : Chunk) (v : Vec) : Store :=
  let r := Row.ofChunk (s.lastId + 1) c v
  { s with
    rows := s.rows ++ [r]
    lastId := r.id
    keywords := s.tell [.insert r.document] }

/-- 行の中身を入れ替える。 -/
def changeRow (s : Store) (r : Row) (c : Chunk) (v : Vec) : Store :=
  let next := Row.ofChunk r.id c v
  { s with
    rows := s.rows.map fun x => if x.id = r.id then next else x
    keywords := s.tell [.delete r.document, .insert next.document] }

/-- 断片を保存する。同じ名前の行があれば入れ替える。 -/
def put (s : Store) (c : Chunk) (v : Vec) : Store :=
  match s.rows.find? fun r => r.name == c.id with
  | some r => s.changeRow r c v
  | none => s.addRow c v

/-- ファイルの行か。 -/
def inFile (path : String) (r : Row) : Bool := r.path == path

/-- ファイルの行と記録を消す。 -/
def dropFile (s : Store) (path : String) : Store :=
  { s with
    rows := s.rows.filter fun r => !inFile path r
    hashes := s.hashes.filter fun h => h.1 != path
    keywords := s.tell ((s.rows.filter (inFile path)).map fun r => .delete r.document) }

/-! ## 書き込み -/

/-- 空でないベクトルの付いた断片。 -/
def storable (chunks : List Chunk) : List (Chunk × Vec) :=
  chunks.filterMap fun c => (c.vector.filter (fun v => !v.isEmpty)).map fun v => (c, v)

/-- ベクトルの長さを確かめる。最初のものと違う長さ、決まった長さと違う長さを断る。 -/
def checkLengths (s : Store) (n : Nat) (items : List (Chunk × Vec)) : Except Error Unit :=
  match items.find? fun i => i.2.length != n with
  | some odd => .error (.schemaMismatch n odd.2.length)
  | none =>
    match s.dimensions with
    | some d => if d = n then .ok () else .error (.schemaMismatch d n)
    | none => .ok ()

/-- 最初の書き込みなら、長さを決めて語の索引を作る。 -/
def prepare (s : Store) (n : Nat) : Store :=
  match s.dimensions with
  | some _ => s
  | none =>
    { s with
      dimensions := some n
      keywords :=
        if s.lexical then some (s.keywords.getD [] ++ [.rebuild (s.rows.map (·.document))])
        else s.keywords }

/-- 長さを確かめて、書き込む用意をする。書くものがなければ何もしない。 -/
def prepareFor (s : Store) : List (Chunk × Vec) → Except Error Store
  | [] => .ok s
  | (c, v) :: rest => (s.checkLengths v.length ((c, v) :: rest)).map fun _ => s.prepare v.length

/-- 断片を順に保存する。 -/
def putAll (s : Store) (items : List (Chunk × Vec)) : Store :=
  items.foldl (fun s i => s.put i.1 i.2) s

/-- 断片を保存し、保存した数を返す。ベクトルのない断片は保存しない。 -/
def insert (s : Store) (chunks : List Chunk) : Except Error (Nat × Store) :=
  let items := storable chunks
  (s.prepareFor items).map fun s => (items.length, s.putAll items)

/-- ファイルの行を断片で入れ替え、保存した数を返す。記録は消える。 -/
def replaceFile (s : Store) (path : String) (chunks : List Chunk) : Except Error (Nat × Store) :=
  let items := storable chunks
  (s.prepareFor items).map fun s => (items.length, (s.dropFile path).putAll items)

/-! ## 手順としての書き込み -/

/-- 書き込みの手順。途中で断っても、それまでに変えたところは残る。 -/
abbrev Writing := ExceptT Error (StateM Store)

/-- 長さを確かめて、書き込む用意をする手順。 -/
def preparing : List (Chunk × Vec) → Writing Unit
  | [] => pure ()
  | (c, v) :: rest => do
    (← get).checkLengths v.length ((c, v) :: rest)
    modify fun s => s.prepare v.length

/-- 断片を書き込み、書いた数を返す手順。`replaced` があれば、先にそのファイルを消す。 -/
def writing (replaced : Option String) (chunks : List Chunk) : Writing Nat := do
  let items := storable chunks
  preparing items
  if let some path := replaced then
    modify fun s => s.dropFile path
  modify fun s => s.putAll items
  return items.length

/-- 書き込みの結果と、その後の保存先。断られたときも保存先を返す。 -/
def write (s : Store) (replaced : Option String) (chunks : List Chunk) :
    Except Error Nat × Store :=
  (writing replaced chunks).run.run s

/-! ## ファイルと全体 -/

/-- ファイルの行と記録を消し、消した行の数を返す。 -/
def deleteFile (s : Store) (path : String) : Nat × Store :=
  ((s.rows.filter (inFile path)).length, s.dropFile path)

/-- すべてを消す。番号だけは続きから数える。 -/
def clear (s : Store) : Store := { lexical := s.lexical, lastId := s.lastId }

/-- ファイルの内容の要約を記録する。 -/
def recordFile (s : Store) (path hash : String) : Store :=
  { s with hashes := s.hashes.filter (fun h => h.1 != path) ++ [(path, hash)] }

/-! ## 読み出し -/

/-- 検索できるものがあるか。 -/
def isReady (s : Store) : Bool := !s.rows.isEmpty

/-- 語の索引があるか。 -/
def hasKeywords (s : Store) : Bool := s.keywords.isSome

/-- 保存した断片の数。 -/
def chunkCount (s : Store) : Nat := s.rows.length

/-- 断片のあるファイルの数。 -/
def fileCount (s : Store) : Nat := (s.rows.map (·.path)).eraseDups.length

/-- ファイルの断片。行の順に並ぶ。 -/
def chunksOf (s : Store) (path : String) : List Chunk :=
  stableSort (fun a b => decide (a.firstLine < b.firstLine))
    ((s.rows.filter (inFile path)).map (·.chunk))

/-- 記録した要約。 -/
def hash? (s : Store) (path : String) : Option String := s.hashes.lookup path

/-- 行か記録のあるファイル。名前の順に並ぶ。 -/
def files (s : Store) : List String :=
  stableSort (fun a b => decide (a < b))
    (s.hashes.map (·.1) ++ s.rows.map (·.path)).eraseDups

end Store

end CodeSearch
