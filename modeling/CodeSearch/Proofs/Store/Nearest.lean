import CodeSearch.Keyword.Index
import CodeSearch.Proofs.Quantity
import CodeSearch.Proofs.Sorting
import CodeSearch.Proofs.Store.Representation

/-!
# ベクトルの検索は、近い順の先頭を正確に返す

検索は、近いほうから倍の数をとってから、類似度の足りないものを落とす。落とした分だけ足りなくなるように
見えるが、近いほど類似度が大きいなら、落ちるのは近い順の後ろのほうだけである。だから、先に全体から
落としてから数をとったのと同じになる。

* `pairwise_nearest` — 整列の結果は、近い順、同じ距離なら番号の順に並ぶ
* `take_filter_take` — 後ろのほうだけを落とすなら、先に数をとっても変わらない
* `vectorSearch_exact` — 検索の結果と、取る数を変えたとき、語の索引がないとき
-/

namespace CodeSearch.Store

open Quantity

variable {α : Type} [Quantity α]

/-! ## 近い順 -/

/-- `a` のほうが近いか、同じ距離で番号が小さいこと。 -/
def Closer (a b : α × Row) : Prop :=
  le a.1 b.1 = true ∧ (le b.1 a.1 = true → a.2.id < b.2.id)

theorem nearest_perm (scored : List (α × Row)) : (nearest scored).Perm scored :=
  stableSort_perm _ _

section Ranking

variable [LawfulQuantity α] {scored : List (α × Row)}

theorem not_before_iff {a b : α × Row} (ha : isOrdered a.1 = true) (hb : isOrdered b.1 = true) :
    (lt a.1 b.1 || (!lt b.1 a.1 && decide (a.2.id < b.2.id))) = false
      ↔ le b.1 a.1 = true ∧ (le a.1 b.1 = true → b.2.id ≤ a.2.id) := by
  rw [LawfulQuantity.lt_eq_not_le ha hb, LawfulQuantity.lt_eq_not_le hb ha, Bool.not_not,
    Bool.or_eq_false_iff, Bool.not_eq_false', Bool.and_eq_false_imp]
  simp only [decide_eq_false_iff_not, Nat.not_lt]

/-- 比べられる距離だけなら、近さの比較は順序の比較である。 -/
theorem orders_nearest (h : ∀ x ∈ scored, isOrdered x.1 = true) :
    Orders (fun a b : α × Row => lt a.1 b.1 || (!lt b.1 a.1 && decide (a.2.id < b.2.id)))
      scored where
  asymm := by
    intro a ha b hb hab
    refine (not_before_iff (h b hb) (h a ha)).mpr ?_
    rw [LawfulQuantity.lt_eq_not_le (h a ha) (h b hb),
      LawfulQuantity.lt_eq_not_le (h b hb) (h a ha), Bool.not_not] at hab
    rcases Bool.or_eq_true_iff.mp hab with hlt | htie
    · rw [Bool.not_eq_true'] at hlt
      refine ⟨(LawfulQuantity.le_total (h a ha) (h b hb)).resolve_right ?_, fun hba => ?_⟩
      · rw [hlt]
        decide
      · rw [hlt] at hba
        cases hba
    · obtain ⟨hle, hid⟩ := Bool.and_eq_true_iff.mp htie
      exact ⟨hle, fun _ => Nat.le_of_lt (of_decide_eq_true hid)⟩
  trans := by
    intro a ha b hb c hc hab hbc
    obtain ⟨hba, hid⟩ := (not_before_iff (h a ha) (h b hb)).mp hab
    obtain ⟨hcb, hid'⟩ := (not_before_iff (h b hb) (h c hc)).mp hbc
    refine (not_before_iff (h a ha) (h c hc)).mpr ⟨LawfulQuantity.le_trans hcb hba, fun hac => ?_⟩
    have hle := hid (LawfulQuantity.le_trans hac hcb)
    have hle' := hid' (LawfulQuantity.le_trans hba hac)
    exact Nat.le_trans hle' hle

/-- **整列の結果は、近い順、同じ距離なら番号の順に並ぶ。** -/
theorem pairwise_nearest (h : ∀ x ∈ scored, isOrdered x.1 = true)
    (hids : (scored.map (·.2.id)).Nodup) : (nearest scored).Pairwise Closer := by
  have hperm := nearest_perm scored
  have hdistinct : (nearest scored).Pairwise fun a b => a.2.id ≠ b.2.id :=
    List.pairwise_map.mp ((hperm.map _).nodup_iff.mpr hids)
  refine ((pairwise_stableSort (orders_nearest h)).and hdistinct).imp_of_mem ?_
  intro a b ha hb ⟨hab, hne⟩
  obtain ⟨hle, hid⟩ := (not_before_iff (h b (hperm.mem_iff.mp hb)) (h a (hperm.mem_iff.mp ha))).mp hab
  exact ⟨hle, fun hba => Nat.lt_of_le_of_ne (hid hba) hne⟩

end Ranking

/-! ## 先に数をとる -/

/-- **落ちるのが後ろのほうだけなら、落とす前に数をとっても変わらない。** -/
theorem take_filter_take {β : Type} {keep : β → Bool} : ∀ {xs : List β} {n m : Nat},
    xs.Pairwise (fun a b => keep b = true → keep a = true) → n ≤ m →
    ((xs.take m).filter keep).take n = (xs.filter keep).take n
  | [], n, m, _, _ => by rw [List.take_nil]
  | x :: xs, 0, m, _, _ => by rw [List.take_zero, List.take_zero]
  | x :: xs, n + 1, m + 1, h, hnm => by
    obtain ⟨hx, hxs⟩ := List.pairwise_cons.mp h
    rw [List.take_succ_cons]
    by_cases hk : keep x = true
    · rw [List.filter_cons_of_pos hk, List.filter_cons_of_pos hk, List.take_succ_cons,
        List.take_succ_cons, take_filter_take hxs (Nat.le_of_succ_le_succ hnm)]
    · -- 一つ落ちれば、後はすべて落ちる
      have hnone : ∀ y ∈ xs, ¬ keep y = true := fun y hy hky => hk (hx y hy hky)
      rw [List.filter_cons_of_neg hk, List.filter_cons_of_neg hk, List.filter_eq_nil_iff.mpr hnone,
        List.filter_eq_nil_iff.mpr fun y hy => hnone y (List.mem_of_mem_take hy)]

theorem le_doubled {limit : Nat} (h : limit ≤ maxLimit) : limit ≤ doubled limit := by
  unfold doubled
  exact Nat.le_min.mpr ⟨by omega, h⟩

theorem doubled_le (limit : Nat) : doubled limit ≤ maxLimit := Nat.min_le_right _ _

/-! ## 検索 -/

section Search

variable {s : Store} {metric : Metric α} {query : Vec}

theorem ensureReady_of_rows {n : Nat} (hd : s.dimensions = some n) (hrows : s.rows ≠ []) :
    s.ensureReady n = .ok () := by
  unfold ensureReady
  simp [hd, hrows]

theorem vectorSearch_error {e : Error} (h : s.ensureReady query.length = .error e) (limit : Nat)
    (floor : α) : s.vectorSearch metric query limit floor = .error e := by
  unfold vectorSearch
  rw [h]
  rfl

theorem hybridSearch_of_keywords_none (h : s.keywords = none) (F : Keyword.FullText)
    (text : String) (limit k : Nat) (floor : α) :
    s.hybridSearch F metric text query limit floor k
      = (s.vectorSearch metric query (doubled limit) floor).map (·.take limit) := by
  unfold hybridSearch hasKeywords
  rw [h]
  cases s.vectorSearch metric query (doubled limit) floor <;> rfl

/-- 行と、問い合わせとの距離。 -/
def scoredRows (metric : Metric α) (query : Vec) (s : Store) : List (α × Row) :=
  s.rows.map fun r => (metric query r.vector, r)

/-- 類似度が `floor` を下回らないこと。 -/
def reaches (floor : α) (x : α × Row) : Bool := !lt (Rank.similarity x.1) floor

/-- 距離がどれも比べられ、近い行ほど類似度が小さくはならないこと。 -/
structure Measurable (metric : Metric α) (query : Vec) (s : Store) : Prop where
  ordered : ∀ r ∈ s.rows, isOrdered (metric query r.vector) = true
  antitone : ∀ r ∈ s.rows, ∀ x ∈ s.rows, le (metric query r.vector) (metric query x.vector) = true →
    le (Rank.similarity (metric query x.vector)) (Rank.similarity (metric query r.vector)) = true

/-- 近い順に並べ、類似度が `floor` を下回るものを除いた、すべての答え。 -/
def answers (metric : Metric α) (query : Vec) (s : Store) (floor : α) : List (Hit α) :=
  ((nearest (scoredRows metric query s)).filter (reaches floor)).map hitOf

variable [LawfulQuantity α]

theorem Measurable.pairwise_nearest (hm : Measurable metric query s) (hs : s.Sound) :
    (nearest (scoredRows metric query s)).Pairwise Closer := by
  refine Store.pairwise_nearest ?_ ?_
  · intro x hx
    obtain ⟨r, hr, rfl⟩ := List.mem_map.mp hx
    exact hm.ordered r hr
  · unfold scoredRows
    rw [List.map_map]
    exact hs.ascending.imp Nat.ne_of_lt

/-- 遠い行が残るなら、近い行も残る。 -/
theorem Measurable.reaches_of_closer (hm : Measurable metric query s) {floor : α} {a b : α × Row}
    (ha : a ∈ scoredRows metric query s) (hb : b ∈ scoredRows metric query s) (hab : Closer a b)
    (h : reaches floor b = true) : reaches floor a = true := by
  obtain ⟨r, hr, rfl⟩ := List.mem_map.mp ha
  obtain ⟨x, hx, rfl⟩ := List.mem_map.mp hb
  have hsim := hm.antitone r hr x hx hab.1
  unfold reaches at h ⊢
  rw [Bool.not_eq_true'] at h ⊢
  refine Bool.eq_false_iff.mpr fun hlt => ?_
  rw [LawfulQuantity.lt_of_le_of_lt hsim hlt] at h
  cases h

/-- 比べられる `floor` なら、下回らないことは以上であることである。 -/
theorem Measurable.reaches_eq_le (hm : Measurable metric query s) {floor : α} {x : α × Row}
    (hx : x ∈ scoredRows metric query s) (hf : isOrdered floor = true) :
    reaches floor x = le floor (Rank.similarity x.1) := by
  obtain ⟨r, hr, rfl⟩ := List.mem_map.mp hx
  have hself := hm.antitone r hr r hr (hm.ordered r hr)
  unfold reaches
  rw [LawfulQuantity.lt_eq_not_le (LawfulQuantity.ordered_of_le hself).1 hf, Bool.not_not]

/-- 比べられない `floor` を下回るものはない。 -/
theorem reaches_of_not_ordered {floor : α} (hf : isOrdered floor = false) (x : α × Row) :
    reaches floor x = true := by
  unfold reaches
  rw [Bool.not_eq_true']
  refine Bool.eq_false_iff.mpr fun hlt => ?_
  rw [(LawfulQuantity.ordered_of_lt hlt).2] at hf
  cases hf

/-- **受け付けた検索は、すべての答えの先頭を返す。** -/
theorem vectorSearch_eq_take (hs : s.Sound) (hm : Measurable metric query s)
    (hready : s.ensureReady query.length = .ok ()) {limit : Nat} (hlimit : limit ≤ maxLimit)
    (floor : α) :
    s.vectorSearch metric query limit floor = .ok ((answers metric query s floor).take limit) := by
  -- 近い順の並びでは、落ちるのは後ろのほうだけである
  have hprefix : (nearest (scoredRows metric query s)).Pairwise fun a b =>
      reaches floor b = true → reaches floor a = true := by
    refine (hm.pairwise_nearest hs).imp_of_mem fun ha hb hab => ?_
    have hperm := nearest_perm (scoredRows metric query s)
    exact hm.reaches_of_closer (hperm.mem_iff.mp ha) (hperm.mem_iff.mp hb) hab
  unfold vectorSearch
  rw [hready, hs.distances_eq hready]
  show Except.ok (((((nearest (scoredRows metric query s)).take (doubled limit)).map hitOf).filter
    fun h => !lt h.similarity floor).take limit) = _
  rw [List.filter_map, ← List.map_take]
  show Except.ok (((((nearest (scoredRows metric query s)).take (doubled limit)).filter
    (reaches floor)).take limit).map hitOf) = _
  rw [take_filter_take hprefix (le_doubled hlimit), List.map_take]
  rfl

/--
**ベクトルの検索は、近い順の先頭を正確に返す。**

距離がどれも比べられ、近いほど類似度が大きいなら、行があるかぎり、検索の結果は、すべての行を
距離と番号の順に並べ、類似度が `floor` を下回るものを除き、先頭から `limit` 個をとったものである。
`floor` が比べられるなら、下回らないことは以上であることに等しい。比べられないなら、何も除かない。
だから、少なく取った答えは多く取った答えの先頭である。語の索引がなければ、合わせた検索も同じ答えを返す。
行がなければ、長さが決まっていても検索はまだできない。
-/
theorem vectorSearch_exact (h : s.Reachable) (hd : s.dimensions = some query.length)
    (hm : Measurable metric query s) :
    (s.rows ≠ [] → ∃ ranking : List (α × Row), ranking.Perm (scoredRows metric query s)
      ∧ ranking.Pairwise Closer
      ∧ ∀ limit floor, limit ≤ maxLimit → s.vectorSearch metric query limit floor
        = .ok (((ranking.filter (reaches floor)).take limit).map hitOf))
    ∧ (∀ floor, isOrdered floor = true → ∀ x ∈ scoredRows metric query s,
      reaches floor x = le floor (Rank.similarity x.1))
    ∧ (∀ floor : α, isOrdered floor = false → ∀ x, reaches floor x = true)
    ∧ (∀ limit limit' floor hits, limit ≤ limit' → limit' ≤ maxLimit →
      s.vectorSearch metric query limit' floor = .ok hits →
      s.vectorSearch metric query limit floor = .ok (hits.take limit))
    ∧ (s.keywords = none → ∀ F text limit floor k, limit ≤ maxLimit →
      s.hybridSearch F metric text query limit floor k = s.vectorSearch metric query limit floor)
    ∧ (s.rows = [] → ∀ limit floor,
      s.vectorSearch metric query limit floor = .error .indexNotReady) := by
  have hs := h.sound
  refine ⟨fun hrows => ?_, fun floor hf x hx => hm.reaches_eq_le hx hf,
    fun floor hf => reaches_of_not_ordered hf, ?_, ?_, ?_⟩
  · have hready := ensureReady_of_rows hd hrows
    refine ⟨_, nearest_perm _, hm.pairwise_nearest hs, fun limit floor hlimit => ?_⟩
    rw [vectorSearch_eq_take hs hm hready hlimit, answers, List.map_take]
  · intro limit limit' floor hits hle hlimit hhits
    have hready := vectorSearch_eq_ok hhits
    rw [vectorSearch_eq_take hs hm hready hlimit] at hhits
    cases hhits
    rw [vectorSearch_eq_take hs hm hready (Nat.le_trans hle hlimit), List.take_take,
      Nat.min_eq_left hle]
  · intro hnone F text limit floor k hlimit
    rw [hybridSearch_of_keywords_none hnone]
    cases hready : s.ensureReady query.length with
    | error e => rw [vectorSearch_error hready, vectorSearch_error hready]; rfl
    | ok _ =>
      rw [vectorSearch_eq_take hs hm hready (doubled_le limit),
        vectorSearch_eq_take hs hm hready hlimit]
      show Except.ok (((answers metric query s floor).take (doubled limit)).take limit) = _
      rw [List.take_take, Nat.min_eq_left (le_doubled hlimit)]
  · intro hrows limit floor
    refine vectorSearch_error ?_ limit floor
    unfold ensureReady
    rw [hd, hrows]
    rfl

end Search

/-- `wide` と直交するベクトルの付いた断片。 -/
def upright : Chunk :=
  { Chunk.ofSpan "b.rs" 1 1 "fn c() {}" .function "rust" 0 with vector := some [0.0, 1.0] }

/-- 語の索引を作らずに、向きの違う二つの断片を書いた保存先。 -/
def unlexed : Store := Operation.apply (.empty false) (.insert [wide, upright])

/-- 片方の断片と同じ向きの問い合わせ。 -/
def eastward : Vec := [1.0, 0.0]

theorem measurable_unlexed : Measurable Vec.metric eastward unlexed where
  ordered := by decide +kernel
  antitone := by decide +kernel

/-- 同じ向きの断片だけが残り、合わせた検索も同じ答えを返す。 -/
theorem vectorSearch_exact_unlexed :
    (∃ ranking : List (Float × Row), ranking.Perm (scoredRows Vec.metric eastward unlexed)
      ∧ ranking.Pairwise Closer
      ∧ unlexed.vectorSearch Vec.metric eastward 1 0.5
        = .ok (((ranking.filter (reaches 0.5)).take 1).map hitOf))
    ∧ unlexed.hybridSearch .builtin Vec.metric "a" eastward maxLimit 0.5 60
      = unlexed.vectorSearch Vec.metric eastward maxLimit 0.5 := by
  have hreach : unlexed.Reachable := (Reachable.empty false).step _
  obtain ⟨hranking, -, -, -, hhybrid, -⟩ := vectorSearch_exact hreach rfl measurable_unlexed
  obtain ⟨ranking, hperm, hclose, hsearch⟩ := hranking (by decide)
  exact ⟨⟨ranking, hperm, hclose, hsearch 1 0.5 (by decide)⟩,
    hhybrid rfl .builtin "a" maxLimit 0.5 60 (Nat.le_refl _)⟩

/-- 書いた断片をすべて消した保存先。長さは決まったままである。 -/
def emptied : Store :=
  [Operation.insert [wide], .deleteFile "a.rs"].foldl Operation.apply (.empty true)

/-- 比べられない `floor` は何も落とさないので、以上のものだけを残した答えにはならない。
行がなければ、空の答えを返さずに断る。 -/
theorem vectorSearch_ne_filter_le :
    (unlexed.Reachable ∧ unlexed.dimensions = some eastward.length
      ∧ Measurable Vec.metric eastward unlexed
      ∧ unlexed.vectorSearch Vec.metric eastward 5 (0.0 / 0.0)
        ≠ .ok ((((nearest (scoredRows Vec.metric eastward unlexed)).filter
          fun x => le (0.0 / 0.0) (Rank.similarity x.1)).take 5).map hitOf))
    ∧ emptied.Reachable ∧ emptied.dimensions = some eastward.length
      ∧ Measurable Vec.metric eastward emptied
      ∧ emptied.vectorSearch Vec.metric eastward 5 0.0
        ≠ .ok ((((nearest (scoredRows Vec.metric eastward emptied)).filter
          fun x => le 0.0 (Rank.similarity x.1)).take 5).map hitOf) := by
  have hunlexed : unlexed.Reachable := (Reachable.empty false).step _
  have hemptied : emptied.Reachable := (Reachable.empty true).run _
  refine ⟨⟨hunlexed, rfl, measurable_unlexed, fun heq => ?_⟩, hemptied, rfl, ⟨nofun, nofun⟩, nofun⟩
  have hready : unlexed.ensureReady eastward.length = .ok () := rfl
  have hnan : isOrdered (0.0 / 0.0 : Float) = false := by decide +kernel
  have hnone : (nearest (scoredRows Vec.metric eastward unlexed)).filter
      (fun x => le (0.0 / 0.0) (Rank.similarity x.1)) = [] := by
    refine List.filter_eq_nil_iff.mpr fun x _ hle => ?_
    rw [(LawfulQuantity.ordered_of_le hle).1] at hnan
    cases hnan
  rw [hnone, vectorSearch_eq_take hunlexed.sound measurable_unlexed hready (by decide)] at heq
  have hlength : (answers Vec.metric eastward unlexed (0.0 / 0.0)).length = 2 := by decide +kernel
  have hnil : (answers Vec.metric eastward unlexed (0.0 / 0.0)).take 5 = [] := Except.ok.inj heq
  have hzero := congrArg List.length hnil
  rw [List.length_take, hlength] at hzero
  cases hzero

end CodeSearch.Store
