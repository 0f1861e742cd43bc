/-!
# 切替点の列

文字の集合を、内外が入れ替わる符号位置を昇順に並べた列で表す。
列を左から見て、境界を一つ越えるたびに内外が入れ替わる。

写像のほうは、等差に並ぶ符号位置を同じ差だけずらす区間の列で表す。
-/

namespace CodeSearch.Text

namespace Toggle

/-- 切替点の列 `ts` が表す集合に `n` が入るか。 -/
def contains : List Nat → Nat → Bool
  | [], _ => false
  | t :: ts, n => if n < t then false else !contains ts n

theorem contains_of_lt {t : Nat} {ts : List Nat} {n : Nat} (h : n < t) :
    contains (t :: ts) n = false := by
  simp [contains, h]

theorem contains_of_le {t : Nat} {ts : List Nat} {n : Nat} (h : t ≤ n) :
    contains (t :: ts) n = !contains ts n := by
  simp [contains, Nat.not_lt.mpr h]

end Toggle

/-- `first` から `last` まで `stride` おきに並ぶ符号位置を `offset` だけずらす。 -/
structure ShiftRun where
  first : Nat
  last : Nat
  stride : Nat
  offset : Int

namespace ShiftRun

/-- 区間に入るか。 -/
def covers (r : ShiftRun) (n : Nat) : Bool :=
  r.first ≤ n && n ≤ r.last && (n - r.first) % r.stride == 0

/-- 最初に覆う区間でずらす。どの区間にも入らなければそのまま。 -/
def apply (runs : List ShiftRun) (n : Nat) : Nat :=
  match runs.find? (·.covers n) with
  | some r => (n + r.offset).toNat
  | none => n

end ShiftRun

end CodeSearch.Text
