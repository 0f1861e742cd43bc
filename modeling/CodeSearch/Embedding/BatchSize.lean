/-!
# 束の大きさ

一度に送る文書の数である。1 から `maxBatchSize` までに収まることは型が保つ。
失敗したら半分にし、増やすときは四分の一だけ増やす。
-/

namespace CodeSearch

/-- 束の大きさの上限。 -/
def maxBatchSize : Nat := 100

/-- 束の大きさ。 -/
structure BatchSize where
  value : Nat
  one_le : 1 ≤ value
  le_max : value ≤ maxBatchSize
  deriving DecidableEq

namespace BatchSize

/-- 上限と下限に収める。 -/
def ofNat (n : Nat) : BatchSize :=
  { value := min (max n 1) maxBatchSize
    one_le := by unfold maxBatchSize; omega
    le_max := by omega }

/-- 半分にする。1 より小さくはならない。 -/
def shrink (b : BatchSize) : BatchSize :=
  { value := max (b.value / 2) 1
    one_le := by omega
    le_max := by
      have := b.le_max
      unfold maxBatchSize at *
      omega }

/-- 四分の一だけ増やす。端数は切り上げる。 -/
def grow (b : BatchSize) : BatchSize :=
  { value := min ((b.value * 5 + 3) / 4) maxBatchSize
    one_le := by
      have := b.one_le
      unfold maxBatchSize
      omega
    le_max := by omega }

end BatchSize

end CodeSearch
