import CodeSearch.Proofs.Rank.Display
import CodeSearch.Proofs.Rank.Fusion
import CodeSearch.Proofs.Rank.Rescoring
import CodeSearch.Proofs.Store.Nearest

/-!
# 検索の結果は、いまの行から引いたものである

ベクトルで探しても、語で探して合わせても、結果の断片はいまの行のもので、類似度はその行のいまのベクトルから
測ったものである。同じ断片は二度現れない（`Drawn`）。距離や点がどれも比べられるなら、順位を統合したときは
統合した点の、そうでないときは類似度の、大きい順に並ぶ。

* `vectorSearch_drawn`、`descending_vectorSearch` — ベクトルの検索
* `hybridSearch_drawn`、`descending_hybridSearch` — 語を合わせた検索
-/

namespace CodeSearch.Store

open Quantity

variable {α : Type} [Quantity α] {F : Keyword.FullText} {metric : Metric α} {query : Vec}
  {s : Store}

/-! ## いまの行 -/

/-- いまの行から引いた結果であること。断片は行のもので、類似度は行のベクトルから測ったものである。 -/
def Current (metric : Metric α) (query : Vec) (s : Store) (h : Hit α) : Prop :=
  ∃ r ∈ s.rows, h.chunk = r.chunk ∧ h.similarity = Rank.similarity (metric query r.vector)

/-- どれもいまの行から引いた結果で、断片の名前に重なりがないこと。 -/
structure Drawn (metric : Metric α) (query : Vec) (s : Store) (hits : List (Hit α)) : Prop where
  distinct : (hits.map (·.chunk.id)).Nodup
  current : ∀ h ∈ hits, Current metric query s h

namespace Drawn

variable {hits hits' : List (Hit α)}

theorem sublist (h : Drawn metric query s hits) (hsub : hits'.Sublist hits) :
    Drawn metric query s hits' where
  distinct := h.distinct.sublist (hsub.map _)
  current := fun x hx => h.current x (hsub.subset hx)

theorem take (h : Drawn metric query s hits) (n : Nat) : Drawn metric query s (hits.take n) :=
  h.sublist (List.take_sublist n hits)

theorem rerank (h : Drawn metric query s hits) (text : String) :
    Drawn metric query s (Rank.rerank text hits) where
  distinct := by
    refine ((Rank.rerank_perm text hits).map _).nodup_iff.mpr ?_
    unfold Rank.rescored
    rw [List.map_map]
    exact h.distinct
  current := by
    intro x hx
    obtain ⟨g, hg, rfl⟩ := Rank.mem_rerank hx
    exact h.current g hg

theorem display (h : Drawn metric query s hits) : Drawn metric query s (Rank.display hits) where
  distinct := by
    rw [Rank.map_display fun _ _ => rfl]
    exact h.distinct
  current := by
    intro x hx
    obtain ⟨g, hg, rfl⟩ := List.mem_map.mp hx
    exact h.current g hg

end Drawn

/-! ## ベクトルの検索 -/

/-- 近い順に並べたすべての行は、いまの行から引いた結果である。 -/
theorem nearest_drawn (hs : s.Sound) :
    Drawn metric query s ((nearest (distances metric query s.rows)).map hitOf) where
  distinct := by
    rw [List.map_map]
    refine ((nearest_perm (distances metric query s.rows)).map _).nodup_iff.mpr ?_
    unfold distances
    rw [List.map_map]
    exact hs.distinct.sublist (List.filter_sublist.map _)
  current := by
    intro h hh
    obtain ⟨x, hx, rfl⟩ := List.mem_map.mp hh
    obtain ⟨r, hr, rfl⟩ := List.mem_map.mp ((nearest_perm _).mem_iff.mp hx)
    exact ⟨r, (List.mem_filter.mp hr).1, rfl, rfl⟩

/-- 受け付けた検索の結果は、近い順に並べたものの一部である。 -/
theorem vectorSearch_sublist {limit : Nat} {floor : α} {hits : List (Hit α)}
    (h : s.vectorSearch metric query limit floor = .ok hits) :
    hits.Sublist ((nearest (distances metric query s.rows)).map hitOf) ∧ hits.length ≤ limit
      ∧ ∀ x ∈ hits, lt x.similarity floor = false := by
  have hready := vectorSearch_eq_ok h
  unfold vectorSearch at h
  rw [hready] at h
  cases h
  refine ⟨?_, List.length_take_le _ _, fun x hx => ?_⟩
  · exact (List.take_sublist _ _).trans (List.filter_sublist.trans ((List.take_sublist _ _).map _))
  · simpa using (List.mem_filter.mp (List.mem_of_mem_take hx)).2

/-- **ベクトルの検索の結果は、いまの行から引いたものである。** -/
theorem vectorSearch_drawn (hs : s.Sound) {limit : Nat} {floor : α} {hits : List (Hit α)}
    (h : s.vectorSearch metric query limit floor = .ok hits) : Drawn metric query s hits :=
  (nearest_drawn hs).sublist (vectorSearch_sublist h).1

/-- **近いほど類似度が大きいなら、ベクトルの検索の結果は類似度の大きい順に並ぶ。** -/
theorem descending_vectorSearch [LawfulQuantity α] (hs : s.Sound) (hm : Measurable metric query s)
    {limit : Nat} {floor : α} {hits : List (Hit α)}
    (h : s.vectorSearch metric query limit floor = .ok hits) :
    Rank.Descending (fun x => some x.similarity) hits := by
  have hready := vectorSearch_eq_ok h
  refine .of_pairwise (fun _ _ => rfl) (List.Pairwise.sublist (vectorSearch_sublist h).1 ?_)
  rw [hs.distances_eq hready, List.pairwise_map]
  refine (hm.pairwise_nearest hs).imp_of_mem fun ha hb hab => ?_
  have hperm := nearest_perm (scoredRows metric query s)
  obtain ⟨r, hr, rfl⟩ := List.mem_map.mp (hperm.mem_iff.mp ha)
  obtain ⟨x, hx, rfl⟩ := List.mem_map.mp (hperm.mem_iff.mp hb)
  exact hm.antitone r hr x hx hab.1

/-- 正確な計算では、距離はどれも比べられ、近いほど類似度が大きい。 -/
theorem measurable_exact (metric : Metric Rat) (query : Vec) (s : Store) :
    Measurable metric query s where
  ordered := fun _ _ => Rank.isOrdered_exact _
  antitone := fun _ _ _ _ h => Rank.similarity_antitone h

/-! ## 語を合わせた検索 -/

/-- 語の索引があれば順位を統合した結果で、なければベクトルの検索の結果である。 -/
theorem hybridSearch_cases {text : String} {limit k : Nat} {floor : α} {hits : List (Hit α)}
    (h : s.hybridSearch F metric text query limit floor k = .ok hits) :
    ∃ near, s.vectorSearch metric query (doubled limit) floor = .ok near
      ∧ ((s.hasKeywords = true ∧ ∃ rows, s.keywordRows F text (doubled limit) = .ok rows
          ∧ hits = (Rank.fuse [near, rows.map (keywordHit metric query)] k).take limit)
        ∨ (s.hasKeywords = false ∧ hits = near.take limit)) := by
  unfold hybridSearch at h
  cases hnear : s.vectorSearch metric query (doubled limit) floor with
  | error e =>
    rw [hnear] at h
    cases h
  | ok near =>
    rw [hnear] at h
    refine ⟨near, rfl, ?_⟩
    cases hk : s.hasKeywords with
    | false =>
      rw [hk] at h
      exact Or.inr ⟨rfl, (Except.ok.inj h).symm⟩
    | true =>
      rw [hk] at h
      cases hrows : s.keywordRows F text (doubled limit) with
      | error e =>
        rw [hrows] at h
        cases h
      | ok rows =>
        rw [hrows] at h
        exact Or.inl ⟨rfl, rows, rfl, (Except.ok.inj h).symm⟩

/-- **合わせた検索の結果も、いまの行から引いたものである。** -/
theorem hybridSearch_drawn (hs : s.Sound) {text : String} {limit k : Nat} {floor : α}
    {hits : List (Hit α)} (h : s.hybridSearch F metric text query limit floor k = .ok hits) :
    Drawn metric query s hits := by
  obtain ⟨near, hnear, ⟨-, rows, hrows, rfl⟩ | ⟨-, rfl⟩⟩ := hybridSearch_cases h
  · have hdrawn := vectorSearch_drawn hs hnear
    refine Drawn.take ⟨Rank.nodup_fuse _ k, fun x hx => ?_⟩ limit
    obtain ⟨g, hg, points, rfl⟩ := Rank.mem_fuse hx
    obtain ⟨hits, hlist, hin⟩ := List.mem_flatten.mp hg
    rcases List.mem_pair.mp hlist with rfl | rfl
    · exact hdrawn.current g hin
    · -- 語で見つけた行にも、いまのベクトルから測った類似度が付く
      obtain ⟨r, hr, rfl⟩ := List.mem_map.mp hin
      have hrow := mem_keywordRows hrows hr
      rw [hs.keywordHit_eq (hybridSearch_eq_ok h) hrow]
      exact ⟨r, hrow, rfl, rfl⟩
  · exact (vectorSearch_drawn hs hnear).take limit

/-- **合わせた検索の結果は、統合した点の大きい順に並ぶ。** 語の索引がなければ類似度の大きい順である。 -/
theorem descending_hybridSearch [LawfulQuantity α] (hs : s.Sound) (hm : Measurable metric query s)
    {text : String} {limit k : Nat} {floor : α} {hits : List (Hit α)}
    (h : s.hybridSearch F metric text query limit floor k = .ok hits)
    (hordered : ∀ near rows, s.vectorSearch metric query (doubled limit) floor = .ok near →
      s.keywordRows F text (doubled limit) = .ok rows →
      ∀ x ∈ Rank.fuse [near, rows.map (keywordHit metric query)] k,
      ∀ y ∈ x.fusionScore, isOrdered y = true) :
    Rank.Descending (fun x => if s.hasKeywords then x.fusionScore else some x.similarity) hits := by
  obtain ⟨near, hnear, ⟨hk, rows, hrows, rfl⟩ | ⟨hk, rfl⟩⟩ := hybridSearch_cases h
  · simp only [if_pos hk]
    exact (Rank.descending_fuse (hordered near rows hnear hrows)).take limit
  · simp only [hk, Bool.false_eq_true, if_false]
    exact (descending_vectorSearch hs hm hnear).take limit

end CodeSearch.Store
