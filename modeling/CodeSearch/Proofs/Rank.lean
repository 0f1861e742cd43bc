import CodeSearch.Proofs.Quantity
import CodeSearch.Proofs.Sorting
import CodeSearch.Rank

/-!
# 点の順

点がどれも比べられるなら、整列の結果は点の大きい順に並ぶ。読む点を決めて、列がその順に並ぶことを
`Descending` と言う。正確な計算では、どの点も比べられる。

* `pairwise_byScoreDesc`、`Descending.of_byScoreDesc` — 整列の結果は点の大きい順に並ぶ
* `similarity_antitone` — 正確な計算では、近いほど類似度が大きい
-/

namespace CodeSearch.Rank

open Quantity

variable {α : Type} [Quantity α]

/-! ## 点の大きい順 -/

theorem byScoreDesc_perm (score : Hit α → α) (hits : List (Hit α)) :
    (byScoreDesc score hits).Perm hits :=
  stableSort_perm _ _

section

variable [LawfulQuantity α] {score : Hit α → α} {hits : List (Hit α)}

/-- 比べられる点だけなら、点の比較は順序の比較である。 -/
theorem orders_score (h : ∀ x ∈ hits, isOrdered (score x) = true) :
    Orders (fun a b => lt (score b) (score a)) hits where
  asymm := by
    intro a ha b hb hab
    rw [LawfulQuantity.lt_eq_not_le (h b hb) (h a ha), Bool.not_eq_true'] at hab
    rw [LawfulQuantity.lt_eq_not_le (h a ha) (h b hb), Bool.not_eq_false']
    refine (LawfulQuantity.le_total (h a ha) (h b hb)).resolve_left ?_
    rw [hab]
    exact Bool.false_ne_true
  trans := by
    intro a ha b hb c hc hab hbc
    rw [LawfulQuantity.lt_eq_not_le (h b hb) (h a ha), Bool.not_eq_false'] at hab
    rw [LawfulQuantity.lt_eq_not_le (h c hc) (h b hb), Bool.not_eq_false'] at hbc
    rw [LawfulQuantity.lt_eq_not_le (h c hc) (h a ha), Bool.not_eq_false']
    exact LawfulQuantity.le_trans hab hbc

/-- **整列の結果は、点の大きい順に並ぶ。** -/
theorem pairwise_byScoreDesc (h : ∀ x ∈ hits, isOrdered (score x) = true) :
    (byScoreDesc score hits).Pairwise fun a b => le (score b) (score a) = true := by
  have hperm := byScoreDesc_perm score hits
  refine (pairwise_stableSort (orders_score h)).imp_of_mem fun ha hb hab => ?_
  rwa [LawfulQuantity.lt_eq_not_le (h _ (hperm.mem_iff.mp ha)) (h _ (hperm.mem_iff.mp hb)),
    Bool.not_eq_false'] at hab

end

/-- `read` で読む点がどれにも付いていて、大きい順に並ぶこと。 -/
def Descending (read : Hit α → Option α) (hits : List (Hit α)) : Prop :=
  ∃ scores : List α, hits.map read = scores.map some
    ∧ scores.Pairwise fun a b => le b a = true

namespace Descending

variable {read : Hit α → Option α} {hits : List (Hit α)}

theorem of_pairwise {score : Hit α → α} (hread : ∀ h ∈ hits, read h = some (score h))
    (hp : hits.Pairwise fun a b => le (score b) (score a) = true) : Descending read hits := by
  refine ⟨hits.map score, ?_, List.pairwise_map.mpr hp⟩
  rw [List.map_map]
  exact List.map_congr_left hread

/-- **どれにも比べられる点が付いているなら、その点で並べたものは点の大きい順に並ぶ。** -/
theorem of_byScoreDesc [LawfulQuantity α] (hread : ∀ h ∈ hits, ∃ x, read h = some x)
    (h : ∀ h ∈ hits, ∀ x ∈ read h, isOrdered x = true) :
    Descending read (byScoreDesc (fun h => (read h).getD (nat 0)) hits) := by
  have hscore : ∀ h ∈ hits, read h = some ((read h).getD (nat 0)) := by
    intro g hg
    obtain ⟨x, hx⟩ := hread g hg
    rw [hx]
    rfl
  refine .of_pairwise (fun g hg => hscore g ((byScoreDesc_perm _ _).mem_iff.mp hg))
    (pairwise_byScoreDesc fun g hg => h g hg _ (hscore g hg))

theorem take (h : Descending read hits) (n : Nat) : Descending read (hits.take n) := by
  obtain ⟨scores, hscores, hp⟩ := h
  exact ⟨scores.take n, by rw [List.map_take, hscores, List.map_take],
    hp.sublist (List.take_sublist n scores)⟩

end Descending

/-! ## 正確な計算 -/

/-- 有理数はどれも比べられる。 -/
theorem isOrdered_exact (x : Rat) : isOrdered x = true := decide_eq_true Rat.le_refl

/-- **正確な計算では、近いほど類似度が大きい。** -/
theorem similarity_antitone {d d' : Rat} (h : le d d' = true) :
    le (similarity d') (similarity d) = true := by
  have hd : d ≤ d' := of_decide_eq_true h
  have hx : 1 - d' / 2 ≤ 1 - d / 2 := by linarith
  refine decide_eq_true ?_
  show clamp (0 : Rat) 1 (1 - d' / 2) ≤ clamp (0 : Rat) 1 (1 - d / 2)
  generalize 1 - d' / 2 = x at hx
  generalize 1 - d / 2 = y at hx
  unfold clamp
  simp only [lt, decide_eq_true_eq]
  split_ifs <;> linarith

end CodeSearch.Rank
