import CodeSearch.Quantity
import Mathlib

/-!
# 比べられる量は順に並ぶ

量の比較は二つの真偽値の関数だけなので、並べるには比較が順序になっていることが要る。
倍精度の非数は何とも比べられないから、自分自身と比べられる量（`isOrdered`）どうしについて、
全順序であることを求める（`LawfulQuantity`）。有理数でも倍精度でも成り立つ。

倍精度の比較は、符号・指数・仮数の順に比べる。だから、その三つを並べた組（`rank`）の辞書式の順序になる。
-/

namespace CodeSearch

open Quantity

/-- 比べられる量どうしの比較が全順序であること。 -/
class LawfulQuantity (α : Type) [Quantity α] : Prop where
  /-- 比べた量は、どちらも比べられる量である。 -/
  ordered_of_le : ∀ {a b : α}, le a b = true → isOrdered a = true ∧ isOrdered b = true
  ordered_of_lt : ∀ {a b : α}, lt a b = true → isOrdered a = true ∧ isOrdered b = true
  le_total : ∀ {a b : α}, isOrdered a = true → isOrdered b = true → le a b = true ∨ le b a = true
  le_trans : ∀ {a b c : α}, le a b = true → le b c = true → le a c = true
  /-- より小さいのは、逆の向きに以下でないときである。 -/
  lt_eq_not_le : ∀ {a b : α}, isOrdered a = true → isOrdered b = true → lt a b = !le b a

namespace LawfulQuantity

variable {α : Type} [Quantity α] [LawfulQuantity α] {a b c : α}

theorem lt_of_le_of_lt (hab : le a b = true) (hbc : lt b c = true) : lt a c = true := by
  have ha := (ordered_of_le hab).1
  obtain ⟨hb, hc⟩ := ordered_of_lt hbc
  rw [lt_eq_not_le ha hc, Bool.not_eq_true']
  rw [lt_eq_not_le hb hc, Bool.not_eq_true'] at hbc
  refine Bool.eq_false_iff.mpr fun hca => ?_
  rw [le_trans hca hab] at hbc
  cases hbc

end LawfulQuantity

instance : LawfulQuantity Rat where
  ordered_of_le := fun _ => ⟨decide_eq_true Rat.le_refl, decide_eq_true Rat.le_refl⟩
  ordered_of_lt := fun _ => ⟨decide_eq_true Rat.le_refl, decide_eq_true Rat.le_refl⟩
  le_total := by
    intro a b _ _
    simpa [le] using Rat.le_total
  le_trans := by
    intro a b c hab hbc
    simp only [le, decide_eq_true_eq] at hab hbc ⊢
    exact hab.trans hbc
  lt_eq_not_le := by
    intro a b _ _
    show decide (a < b) = !decide (b ≤ a)
    rw [← decide_not]
    exact decide_eq_decide.mpr not_le.symm

/-! ## 倍精度 -/

namespace FloatOrder

open Float.Model

/-- 大きさの順を表す組。無限大か、符号、指数、仮数の順に比べる。非数は比べないので、何でもよい。 -/
def rank : UnpackedFloat → ℤ ×ₗ ℤ ×ₗ ℤ
  | .infinity .negative => toLex (-2, toLex (0, 0))
  | .finite .negative m e _ => toLex (-1, toLex (-e, -m))
  | .zero _ | .notANumber => toLex (0, toLex (0, 0))
  | .finite .positive m e _ => toLex (1, toLex (e, m))
  | .infinity .positive => toLex (2, toLex (0, 0))

/-- 指数、仮数の順に比べた結果。 -/
theorem compare_cases (e e' : Int) (m m' : Nat) :
    ((compare e e').then (compare m m') = .lt ∧ (e < e' ∨ e = e' ∧ m < m'))
    ∨ ((compare e e').then (compare m m') = .eq ∧ e = e' ∧ m = m')
    ∨ ((compare e e').then (compare m m') = .gt ∧ (e' < e ∨ e = e' ∧ m' < m)) := by
  rcases lt_trichotomy e e' with h | h | h
  · rw [compare_lt_iff_lt.mpr h]
    exact Or.inl ⟨rfl, Or.inl h⟩
  · rw [compare_eq_iff_eq.mpr h]
    rcases lt_trichotomy m m' with hm | hm | hm
    · exact Or.inl ⟨compare_lt_iff_lt.mpr hm, Or.inr ⟨h, hm⟩⟩
    · exact Or.inr (Or.inl ⟨compare_eq_iff_eq.mpr hm, h, hm⟩)
    · exact Or.inr (Or.inr ⟨compare_gt_iff_gt.mpr hm, Or.inr ⟨h, hm⟩⟩)
  · rw [compare_gt_iff_gt.mpr h]
    exact Or.inr (Or.inr ⟨rfl, Or.inl h⟩)

theorem unpacked_le_iff (x y : UnpackedFloat) :
    x.le y = true ↔ x.isNaN = false ∧ y.isNaN = false ∧ rank x ≤ rank y := by
  rcases x with (_ | _) | _ | _ | ⟨_ | _, m, e, hm⟩ <;>
    rcases y with (_ | _) | _ | _ | ⟨_ | _, m', e', hm'⟩ <;>
    simp [UnpackedFloat.le, UnpackedFloat.compare, UnpackedFloat.isNaN, rank,
      Prod.Lex.toLex_le_toLex]
  -- 残るのは、符号の同じ有限の数どうしだけである
  case finite.negative.finite.negative =>
    rcases compare_cases e e' m m' with ⟨ho, h⟩ | ⟨ho, h⟩ | ⟨ho, h⟩ <;> simp [ho] <;> omega
  case finite.positive.finite.positive =>
    rcases compare_cases e e' m m' with ⟨ho, h⟩ | ⟨ho, h⟩ | ⟨ho, h⟩ <;> simp [ho] <;> omega
  all_goals rfl

theorem unpacked_lt_iff (x y : UnpackedFloat) :
    x.lt y = true ↔ x.isNaN = false ∧ y.isNaN = false ∧ rank x < rank y := by
  rcases x with (_ | _) | _ | _ | ⟨_ | _, m, e, hm⟩ <;>
    rcases y with (_ | _) | _ | _ | ⟨_ | _, m', e', hm'⟩ <;>
    simp [UnpackedFloat.lt, UnpackedFloat.compare, UnpackedFloat.isNaN, rank,
      Prod.Lex.toLex_lt_toLex]
  case finite.negative.finite.negative =>
    rcases compare_cases e e' m m' with ⟨ho, h⟩ | ⟨ho, h⟩ | ⟨ho, h⟩ <;> simp [ho] <;> omega
  case finite.positive.finite.positive =>
    rcases compare_cases e e' m m' with ⟨ho, h⟩ | ⟨ho, h⟩ | ⟨ho, h⟩ <;> simp [ho] <;> omega
  all_goals decide

theorem le_iff {a b : Float} : le a b = true ↔
    a.toModel.unpack.isNaN = false ∧ b.toModel.unpack.isNaN = false
      ∧ rank a.toModel.unpack ≤ rank b.toModel.unpack := by
  rw [← unpacked_le_iff]
  simp only [le, decide_eq_true_eq]
  exact decide_eq_true_iff

theorem lt_iff {a b : Float} : lt a b = true ↔
    a.toModel.unpack.isNaN = false ∧ b.toModel.unpack.isNaN = false
      ∧ rank a.toModel.unpack < rank b.toModel.unpack := by
  rw [← unpacked_lt_iff]
  simp only [lt, decide_eq_true_eq]
  exact decide_eq_true_iff

/-- 比べられないのは非数だけである。 -/
theorem isOrdered_iff {a : Float} : isOrdered a = true ↔ a.toModel.unpack.isNaN = false := by
  rw [isOrdered, le_iff]
  exact ⟨fun h => h.1, fun h => ⟨h, h, le_rfl⟩⟩

end FloatOrder

open FloatOrder in
instance : LawfulQuantity Float where
  ordered_of_le := by
    intro a b h
    obtain ⟨ha, hb, -⟩ := le_iff.mp h
    exact ⟨isOrdered_iff.mpr ha, isOrdered_iff.mpr hb⟩
  ordered_of_lt := by
    intro a b h
    obtain ⟨ha, hb, -⟩ := lt_iff.mp h
    exact ⟨isOrdered_iff.mpr ha, isOrdered_iff.mpr hb⟩
  le_total := by
    intro a b ha hb
    rw [isOrdered_iff] at ha hb
    exact (le_total (rank a.toModel.unpack) (rank b.toModel.unpack)).imp
      (fun h => le_iff.mpr ⟨ha, hb, h⟩) (fun h => le_iff.mpr ⟨hb, ha, h⟩)
  le_trans := by
    intro a b c hab hbc
    obtain ⟨ha, -, hab⟩ := le_iff.mp hab
    obtain ⟨-, hc, hbc⟩ := le_iff.mp hbc
    exact le_iff.mpr ⟨ha, hc, hab.trans hbc⟩
  lt_eq_not_le := by
    intro a b ha hb
    rw [isOrdered_iff] at ha hb
    rw [Bool.eq_iff_iff, Bool.not_eq_true', Bool.eq_false_iff, lt_iff, ne_eq, le_iff]
    constructor
    · rintro ⟨-, -, h⟩ ⟨-, -, h'⟩
      exact absurd h h'.not_gt
    · exact fun h => ⟨ha, hb, lt_of_not_ge fun h' => h ⟨hb, ha, h'⟩⟩

end CodeSearch
