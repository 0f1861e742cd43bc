import CodeSearch.Proofs.Rank

/-!
# 表示の点は類似度の順を変えない

表示の点は、類似度の最小と最大（`Extremes`）を 0 と 100 に移す一次式である。幅が `negligible` 以下のときは
割らずにどれも 100 にするので、そこだけは一次式にならないが、大小の順はどちらでも変わらない。

* `map_display`、`Descending.display` — 表示の点のほかは変わらない
* `bounds_extremes` — 一度の走査で、最小と最大が決まる
* `scaled_mono`、`scaled_strictMono` — 引き伸ばしは順を保ち、幅があれば狭義に保つ
* `display_never_misorders` — 以上をまとめたもの
-/

namespace CodeSearch.Rank

open Quantity

section

variable {α : Type} [Quantity α]

/-- 表示の点を読まないものは、引き伸ばしても変わらない。 -/
theorem map_display {β : Type} {read : Hit α → β}
    (hread : ∀ (h : Hit α) x, read { h with normalized := x } = read h) (hits : List (Hit α)) :
    (display hits).map read = hits.map read := by
  unfold display
  rw [List.map_map]
  exact List.map_congr_left fun h _ => hread h _

theorem Descending.display {read : Hit α → Option α} {hits : List (Hit α)}
    (h : Descending read hits)
    (hread : ∀ (h : Hit α) x, read { h with normalized := x } = read h) :
    Descending read (Rank.display hits) := by
  obtain ⟨scores, hscores, hp⟩ := h
  exact ⟨scores, by rw [map_display hread, hscores], hp⟩

end

/-! ## 最小と最大 -/

/-- `lo` と `hi` が、`xs` の最小と最大であること。 -/
structure Extremes (xs : List Rat) (lo hi : Rat) : Prop where
  lo_mem : lo ∈ xs
  hi_mem : hi ∈ xs
  lo_le : ∀ x ∈ xs, lo ≤ x
  le_hi : ∀ x ∈ xs, x ≤ hi

namespace Extremes

variable {xs : List Rat} {lo hi : Rat}

theorem single (x : Rat) : Extremes [x] x x where
  lo_mem := List.mem_singleton_self x
  hi_mem := List.mem_singleton_self x
  lo_le := fun _ hy => (List.mem_singleton.mp hy).ge
  le_hi := fun _ hy => (List.mem_singleton.mp hy).le

/-- 後ろに一つ足せば、それと比べたものになる。 -/
theorem snoc (h : Extremes xs lo hi) (x : Rat) :
    Extremes (xs ++ [x]) (Quantity.min lo x) (Quantity.max hi x) where
  lo_mem := by
    unfold Quantity.min
    split
    · exact List.mem_append_right xs (List.mem_singleton_self x)
    · exact List.mem_append_left [x] h.lo_mem
  hi_mem := by
    unfold Quantity.max
    split
    · exact List.mem_append_right xs (List.mem_singleton_self x)
    · exact List.mem_append_left [x] h.hi_mem
  lo_le := by
    have hmin : Quantity.min lo x ≤ lo ∧ Quantity.min lo x ≤ x := by
      simp only [Quantity.min, lt, decide_eq_true_eq]
      split_ifs with hlt
      · exact ⟨hlt.le, le_rfl⟩
      · exact ⟨le_rfl, not_lt.mp hlt⟩
    intro y hy
    rcases List.mem_append.mp hy with hy | hy
    · exact hmin.1.trans (h.lo_le y hy)
    · rw [List.mem_singleton.mp hy]
      exact hmin.2
  le_hi := by
    have hmax : hi ≤ Quantity.max hi x ∧ x ≤ Quantity.max hi x := by
      simp only [Quantity.max, lt, decide_eq_true_eq]
      split_ifs with hlt
      · exact ⟨hlt.le, le_rfl⟩
      · exact ⟨le_rfl, not_lt.mp hlt⟩
    intro y hy
    rcases List.mem_append.mp hy with hy | hy
    · exact (h.le_hi y hy).trans hmax.1
    · rw [List.mem_singleton.mp hy]
      exact hmax.2

end Extremes

theorem bounds_append {xs : List Rat} {lo hi : Rat} (h : bounds xs = some (lo, hi)) (x : Rat) :
    bounds (xs ++ [x]) = some (Quantity.min lo x, Quantity.max hi x) := by
  unfold bounds at h ⊢
  rw [List.foldl_append, h]
  exact if_pos (isOrdered_exact x)

/-- **空でなければ、範囲は最小と最大である。** -/
theorem bounds_extremes {xs : List Rat} (hne : xs ≠ []) :
    ∃ lo hi, bounds xs = some (lo, hi) ∧ Extremes xs lo hi := by
  induction xs using List.reverseRecOn with
  | nil => exact absurd rfl hne
  | append_singleton xs x ih =>
    rcases eq_or_ne xs [] with rfl | hxs
    · exact ⟨x, x, if_pos (isOrdered_exact x), .single x⟩
    · obtain ⟨lo, hi, hbounds, hext⟩ := ih hxs
      exact ⟨_, _, bounds_append hbounds x, hext.snoc x⟩

/-! ## 引き伸ばし -/

section

variable {lo hi x y : Rat}

theorem negligible_eq : (negligible : Rat) = 1 / 2 ^ 52 := by decide +kernel

theorem negligible_pos : 0 < (negligible : Rat) := by
  rw [negligible_eq]
  positivity

/-- 幅があれば、最小からの割合である。 -/
theorem scaled_of_wide (h : negligible < hi - lo) (x : Rat) :
    scaled (some (lo, hi)) x = (x - lo) / (hi - lo) * 100 :=
  if_pos (decide_eq_true h)

/-- 幅がなければ、どれも 100 である。 -/
theorem scaled_of_narrow (h : ¬ negligible < hi - lo) (x : Rat) : scaled (some (lo, hi)) x = 100 :=
  if_neg fun hlt => h (of_decide_eq_true hlt)

theorem width_pos (h : negligible < hi - lo) : 0 < hi - lo := negligible_pos.trans h

/-- **最大のものは、いつでもちょうど 100 になる。** -/
theorem scaled_hi (lo hi : Rat) : scaled (some (lo, hi)) hi = 100 := by
  by_cases h : negligible < hi - lo
  · rw [scaled_of_wide h, div_self (width_pos h).ne', one_mul]
  · exact scaled_of_narrow h hi

theorem scaled_lo (h : negligible < hi - lo) : scaled (some (lo, hi)) lo = 0 := by
  rw [scaled_of_wide h, sub_self, zero_div, zero_mul]

theorem scaled_lo_nonneg (lo hi : Rat) : 0 ≤ scaled (some (lo, hi)) lo := by
  by_cases h : negligible < hi - lo
  · exact (scaled_lo h).ge
  · rw [scaled_of_narrow h]
    norm_num

theorem scaled_strictMono (h : negligible < hi - lo) (hxy : x < y) :
    scaled (some (lo, hi)) x < scaled (some (lo, hi)) y := by
  have hwidth := width_pos h
  rw [scaled_of_wide h, scaled_of_wide h]
  gcongr

/-- **引き伸ばしは順を保つ。** -/
theorem scaled_mono (lo hi : Rat) (hxy : x ≤ y) :
    scaled (some (lo, hi)) x ≤ scaled (some (lo, hi)) y := by
  by_cases h : negligible < hi - lo
  · rcases hxy.lt_or_eq with hlt | rfl
    · exact (scaled_strictMono h hlt).le
    · exact le_rfl
  · rw [scaled_of_narrow h, scaled_of_narrow h]

/-- **範囲の中のものは、0 から 100 になる。** -/
theorem scaled_mem (h0 : lo ≤ x) (h1 : x ≤ hi) :
    0 ≤ scaled (some (lo, hi)) x ∧ scaled (some (lo, hi)) x ≤ 100 := by
  refine ⟨(scaled_lo_nonneg lo hi).trans (scaled_mono lo hi h0), ?_⟩
  rw [← scaled_hi lo hi]
  exact scaled_mono lo hi h1

end

/--
**表示の点は、類似度の順を変えない。** 正確な計算では、結果の列に対して類似度から点への関数が一つ決まり、
引き伸ばしは、列の順もほかの値も変えずに、その点を付ける。

* 点は 0 から 100 である。
* 類似度が以下なら、点も以下である。
* 類似度が最大のものは、ちょうど 100 である。
* 類似度の開きが倍精度の刻み `2 ^ -52` を超えれば、最小のものはちょうど 0 であり、類似度が小さければ点も
  小さい。
-/
theorem display_never_misorders (hits : List (Hit Rat)) :
    ∃ scale : Rat → Rat,
      display hits = hits.map (fun h => { h with normalized := some (scale h.similarity) })
      ∧ (∀ a ∈ hits, 0 ≤ scale a.similarity ∧ scale a.similarity ≤ 100)
      ∧ (∀ a ∈ hits, ∀ b ∈ hits, a.similarity ≤ b.similarity →
        scale a.similarity ≤ scale b.similarity)
      ∧ (∀ a ∈ hits, (∀ b ∈ hits, b.similarity ≤ a.similarity) → scale a.similarity = 100)
      ∧ ((∃ low ∈ hits, ∃ high ∈ hits, 1 / 2 ^ 52 < high.similarity - low.similarity) →
        (∀ a ∈ hits, (∀ b ∈ hits, a.similarity ≤ b.similarity) → scale a.similarity = 0)
        ∧ ∀ a ∈ hits, ∀ b ∈ hits, a.similarity < b.similarity →
          scale a.similarity < scale b.similarity) := by
  refine ⟨scaled (bounds (hits.map (·.similarity))), rfl, ?_⟩
  rcases eq_or_ne hits [] with rfl | hne
  · simp
  obtain ⟨lo, hi, hbounds, hext⟩ := bounds_extremes (mt List.map_eq_nil_iff.mp hne)
  rw [hbounds]
  have hlo : ∀ a ∈ hits, lo ≤ a.similarity := fun a ha => hext.lo_le _ (List.mem_map_of_mem ha)
  have hhi : ∀ a ∈ hits, a.similarity ≤ hi := fun a ha => hext.le_hi _ (List.mem_map_of_mem ha)
  obtain ⟨least, hleast, rfl⟩ := List.mem_map.mp hext.lo_mem
  obtain ⟨greatest, hgreatest, rfl⟩ := List.mem_map.mp hext.hi_mem
  refine ⟨fun a ha => scaled_mem (hlo a ha) (hhi a ha), fun a _ b _ hab => scaled_mono _ _ hab,
    fun a ha hmax => ?_, ?_⟩
  · rw [le_antisymm (hhi a ha) (hmax greatest hgreatest), scaled_hi]
  · rintro ⟨low, hlow, high, hhigh, hspread⟩
    have hwide : negligible < greatest.similarity - least.similarity := by
      rw [negligible_eq]
      have hbottom := hlo low hlow
      have htop := hhi high hhigh
      linarith
    refine ⟨fun a ha hmin => ?_, fun a _ b _ hab => scaled_strictMono hwide hab⟩
    rw [le_antisymm (hmin least hleast) (hlo a ha), scaled_lo hwide]

/-! ### 三つの類似度 -/

/-- 類似度だけを定めた断片。 -/
def found (similarity : Rat) : Hit Rat :=
  { chunk := .ofSpan "a.rs" 1 3 "" .function "rust" 0, similarity }

/-- 類似度の順に並んでいない列。 -/
def unsorted : List (Hit Rat) := [found (9 / 10), found (3 / 10), found (6 / 10)]

/-- 並びは変わらず、最大は 100、最小は 0 になる。 -/
theorem display_never_misorders_three :
    (display unsorted).map (·.normalized) = [some 100, some 0, some 50]
    ∧ ∃ scale : Rat → Rat,
      display unsorted = unsorted.map (fun h => { h with normalized := some (scale h.similarity) })
      ∧ scale (9 / 10) = 100 ∧ scale (3 / 10) = 0 ∧ scale (3 / 10) < scale (6 / 10) := by
  have hmem : found (9 / 10) ∈ unsorted ∧ found (3 / 10) ∈ unsorted ∧ found (6 / 10) ∈ unsorted := by
    simp [unsorted]
  obtain ⟨h9, h3, h6⟩ := hmem
  obtain ⟨scale, heq, -, -, htop, hwide⟩ := display_never_misorders unsorted
  obtain ⟨hbottom, hstrict⟩ := hwide ⟨_, h3, _, h9, by norm_num [found]⟩
  exact ⟨by decide +kernel, scale, heq, htop _ h9 (by decide +kernel), hbottom _ h3 (by decide +kernel),
    hstrict _ h3 _ h6 (by norm_num [found])⟩

end CodeSearch.Rank
