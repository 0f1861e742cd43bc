/-!
# 量

点数・距離・時間・残量の計算に要る演算だけを集めた型クラスである。
計算は倍精度（`Float`）で行い、性質は有理数（`Rat`）で述べる。
同じ定義が両方で動くので、式の順序も丸めの場所も一つに定まる。

比較は二つの真偽値の関数で与える。倍精度の非数は、自分自身とも比べられない。
-/

namespace CodeSearch

/-- 四則と比較のできる量。 -/
class Quantity (α : Type) extends Add α, Sub α, Mul α, Div α where
  /-- 自然数の量。 -/
  nat : Nat → α
  /-- `mantissa / 10 ^ places` の量。 -/
  decimal : (mantissa places : Nat) → α
  /-- より小さい。 -/
  lt : α → α → Bool
  /-- 以下である。 -/
  le : α → α → Bool

instance : Quantity Float where
  nat n := OfScientific.ofScientific n false 0
  decimal mantissa places := OfScientific.ofScientific mantissa true places
  lt a b := a < b
  le a b := a ≤ b

instance : Quantity Rat where
  nat n := n
  decimal mantissa places := mantissa / Nat.pow 10 places
  lt a b := a < b
  le a b := a ≤ b

namespace Quantity

variable {α : Type} [Quantity α]

/-- 小さいほう。比べられないときは `a` をとる。 -/
def min (a b : α) : α := if lt b a then b else a

/-- 大きいほう。比べられないときは `a` をとる。 -/
def max (a b : α) : α := if lt a b then b else a

/-- `lo` から `hi` までに収める。比べられない量はそのままである。 -/
def clamp (lo hi x : α) : α := if lt x lo then lo else if lt hi x then hi else x

/-- 自分自身と比べられるか。 -/
def isOrdered (x : α) : Bool := le x x

end Quantity

end CodeSearch
