import CodeSearch.Chunk
import CodeSearch.Identifier
import CodeSearch.Keyword.FullText
import CodeSearch.Timestamp

/-!
# 行

断片は列に分けて保存する。種類は名前で、時刻はミリ秒で、ベクトルは成分ごとの四バイトで持つ。

* `Row.ofChunk` は断片とベクトルを列に直す。時刻の端数はここで捨てる。
* `Row.chunk` と `Row.vector` は列から読み戻す。ベクトルは断片のほうには付けない。
* `Row.document` は語の索引に写す中身である。語の列は書くときに作り、読むときには作り直さない。
-/

namespace CodeSearch

/-! ## ベクトルのバイト列 -/

namespace Vec

/-- 成分の四バイト。下の桁から並べる。 -/
def bytesOf (x : Single) : List UInt8 :=
  let n := x.bits.toNat
  [.ofNat n, .ofNat (n / 256), .ofNat (n / 65536), .ofNat (n / 16777216)]

/-- 四バイトの成分。 -/
def ofFourBytes (a b c d : UInt8) : Single :=
  { bits := .ofNat (a.toNat + 256 * b.toNat + 65536 * c.toNat + 16777216 * d.toNat) }

/-- ベクトルのバイト列。 -/
def toBytes (v : Vec) : List UInt8 := v.flatMap bytesOf

/-- バイト列のベクトル。四つに満たない端数は捨てる。 -/
def ofBytes : List UInt8 → Vec
  | a :: b :: c :: d :: rest => ofFourBytes a b c d :: ofBytes rest
  | _ => []

end Vec

/-! ## 列 -/

/-- 保存した断片。断片の項目は保存した形のまま持つ。 -/
structure Row where
  id : Nat
  name : String
  path : String
  firstLine : Nat
  lastLine : Nat
  text : String
  /-- 本文の識別子を分けた語を、空白でつないだもの。 -/
  terms : String
  kind : String
  language : String
  /-- 作られた時刻。1970 年からのミリ秒。 -/
  createdAt : Int
  sequence : Nat
  /-- ベクトルのバイト列。 -/
  bytes : List UInt8

namespace Row

/-- 断片とベクトルを列に直す。 -/
def ofChunk (id : Nat) (c : Chunk) (v : Vec) : Row :=
  { id, name := c.id, path := c.path, firstLine := c.firstLine, lastLine := c.lastLine,
    text := c.text, terms := " ".intercalate (Identifier.allTerms c.text), kind := c.kind.name,
    language := c.language, createdAt := Timestamp.millis c.createdAt, sequence := c.sequence,
    bytes := Vec.toBytes v }

/-- 読み戻した断片。読めない種類は、分からないものとする。 -/
def chunk (r : Row) : Chunk :=
  { id := r.name, path := r.path, firstLine := r.firstLine, lastLine := r.lastLine, text := r.text,
    kind := (ChunkType.ofName? r.kind).getD .unknown, language := r.language,
    sequence := r.sequence, createdAt := Timestamp.ofMillis r.createdAt }

/-- 読み戻したベクトル。 -/
def vector (r : Row) : Vec := Vec.ofBytes r.bytes

/-- 語の索引に写す中身。 -/
def document (r : Row) : Keyword.Document := { row := r.id, text := r.text, terms := r.terms }

end Row

end CodeSearch
