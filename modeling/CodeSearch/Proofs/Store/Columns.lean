import CodeSearch.Store.Row
import Mathlib

/-!
# 列からの読み戻し

断片を列に直して書き、列から読み戻すと、時刻の端数とベクトルの付いた形を除いて元に戻る。
ベクトルは成分の四バイトで書くので、読み戻したものは一ビットも違わない。種類は名前で書くが、
名前は種類ごとに違い、どれも小文字なので、読み戻せば同じ種類になる。

* `Vec.ofBytes_toBytes` — ベクトルはバイト列から元に戻る
* `ChunkType.ofName?_name` — 種類は名前から元に戻る
* `Row.chunk_ofChunk` — 断片は、時刻の端数とベクトルを除いて元に戻る
-/

namespace CodeSearch

/-! ## ベクトル -/

namespace Vec

/-- 四つの桁を集めると、元の数に戻る。 -/
theorem digits_add (n : Nat) (h : n < 4294967296) :
    n % 256 + 256 * (n / 256 % 256) + 65536 * (n / 65536 % 256) + 16777216 * (n / 16777216 % 256)
      = n := by
  omega

theorem ofFourBytes_bytesOf (x : Single) :
    ofFourBytes (.ofNat x.bits.toNat) (.ofNat (x.bits.toNat / 256))
      (.ofNat (x.bits.toNat / 65536)) (.ofNat (x.bits.toNat / 16777216)) = x := by
  unfold ofFourBytes
  simp only [UInt8.toNat_ofNat', Nat.reducePow]
  rw [digits_add _ x.bits.toNat_lt, UInt32.ofNat_toNat]

/-- **ベクトルはバイト列から元に戻る。** -/
theorem ofBytes_toBytes : ∀ v : Vec, ofBytes (toBytes v) = v
  | [] => rfl
  | x :: v => by
    have hcons : toBytes (x :: v) = bytesOf x ++ toBytes v := List.flatMap_cons
    rw [hcons]
    show ofFourBytes _ _ _ _ :: ofBytes (toBytes v) = x :: v
    rw [ofFourBytes_bytesOf, ofBytes_toBytes v]

end Vec

/-! ## 種類 -/

/-- **種類は名前から元に戻る。** -/
theorem ChunkType.ofName?_name (t : ChunkType) : ofName? t.name = some t := by
  cases t <;> decide +kernel

/-! ## 断片 -/

/-- 保存して読み戻した断片。時刻はミリ秒までになり、ベクトルは外れる。 -/
def Chunk.stored (c : Chunk) : Chunk :=
  { c with createdAt := Timestamp.ofMillis (Timestamp.millis c.createdAt), vector := none }

namespace Row

/-- **断片は、時刻の端数とベクトルを除いて元に戻る。** -/
theorem chunk_ofChunk (id : Nat) (c : Chunk) (v : Vec) : (ofChunk id c v).chunk = c.stored := by
  unfold chunk ofChunk Chunk.stored
  rw [ChunkType.ofName?_name]
  rfl

theorem vector_ofChunk (id : Nat) (c : Chunk) (v : Vec) : (ofChunk id c v).vector = v :=
  Vec.ofBytes_toBytes v

end Row

end CodeSearch
