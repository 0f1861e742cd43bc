import CodeSearch.ChunkType

/-!
# 断片

断片は、一つのファイルの連続した行の範囲である。行番号は 1 から数え、両端を含む。
名前 `Chunk.id` はパスと範囲から決まる。ベクトルは埋め込みが終わってから付く。

ベクトルの成分は単精度の数で、32 ビットのまま持つ。数でないもの（NaN）にも、ビットの違うものがある。
計算するときだけ `Float32` に直す。
-/

namespace CodeSearch

/-- 単精度の数。 -/
structure Single where
  bits : UInt32
  deriving DecidableEq, Repr

namespace Single

/-- 計算に使う数。 -/
def toFloat32 (x : Single) : Float32 := .ofBits x.bits

/-- 計算した数のビット。 -/
def ofFloat32 (x : Float32) : Single := { bits := x.toBits }

instance : OfScientific Single where
  ofScientific mantissa negative exponent := .ofFloat32 (.ofScientific mantissa negative exponent)

end Single

/-- 埋め込みベクトル。 -/
abbrev Vec := List Single

/-- パスと行の範囲から決まる断片の名前。 -/
def chunkId (path : String) (first last : Nat) : String :=
  path ++ ":" ++ toString first ++ "-" ++ toString last

/-- 断片。 -/
structure Chunk where
  id : String
  path : String
  firstLine : Nat
  lastLine : Nat
  text : String
  kind : ChunkType
  language : String
  /-- ファイルの中で何番目の断片か。0 から数える。 -/
  sequence : Nat
  /-- 作られた時刻。1970 年からのナノ秒。 -/
  createdAt : Int := 0
  vector : Option Vec := none

namespace Chunk

/-- 名前をパスと範囲から付けて断片を作る。ベクトルはない。 -/
def ofSpan (path : String) (firstLine lastLine : Nat) (text : String) (kind : ChunkType)
    (language : String) (sequence : Nat) : Chunk :=
  { id := chunkId path firstLine lastLine, path, firstLine, lastLine, text, kind, language,
    sequence }

/-- 行数。 -/
def lineCount (c : Chunk) : Nat := c.lastLine - c.firstLine + 1

/-- 空でないベクトルが付いているか。 -/
def hasVector (c : Chunk) : Bool := c.vector.any (fun v => !v.isEmpty)

end Chunk

end CodeSearch
