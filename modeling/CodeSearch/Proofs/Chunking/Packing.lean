import CodeSearch.Proofs.Chunking.Partition

/-!
# 予算に合わせた切り方

予算を超える範囲は、前から詰められるだけ詰めて切る。切る段は、行ごとに文字数と改行一つを数えて
溜めていくが、見積もりは行をつないだ本文の長さで言う。溜めた数がつないだ長さを下回らないことから
断片が予算に収まることが、上回らないことから次の行がもう入らないことが従う。

* `fits_of_mem_splitToBudget` — 切ったものは予算に収まるか、一行だけである
* `full_of_mem_dropLast` — 最後のほかは、次の行を加えると予算を超える
* `splitLines_of_le` — 予算に収まる範囲は、詰めていっても切れない
* `splitToBudget_greedy` — 以上をまとめ、断片の長さについて言う
-/

namespace CodeSearch

theorem estimateTokens_mono {s t : String} (h : s.length ≤ t.length) :
    estimateTokens s ≤ estimateTokens t :=
  Nat.div_le_div_right (Nat.add_le_add_right h 3)

/-! ## つないだ行の長さ -/

/-- つないだ二つの列を一度につなぐと、区切りの分だけ長くなる。 -/
theorem length_intercalate_append {sep : String} {ys : List String} (hy : ys ≠ []) :
    ∀ {xs : List String}, xs ≠ [] → (sep.intercalate (xs ++ ys)).length
      = (sep.intercalate xs).length + sep.length + (sep.intercalate ys).length
  | [x], _ => by
    obtain ⟨y, rest, rfl⟩ := List.exists_cons_of_ne_nil hy
    rw [List.singleton_append, String.intercalate_cons_cons, String.intercalate_singleton,
      String.length_append, String.length_append]
  | x :: x' :: xs, _ => by
    have ih := @length_intercalate_append sep ys hy (x' :: xs) (List.cons_ne_nil x' xs)
    rw [List.cons_append] at ih
    rw [List.cons_append, List.cons_append, String.intercalate_cons_cons,
      String.intercalate_cons_cons, String.length_append, String.length_append,
      String.length_append, String.length_append, ih]
    omega

namespace SourceLines

variable {ls : SourceLines} {first last n : Nat}

/-- `first` 行目から `last` 行目までの、ファイルにある行。 -/
def pick (ls : SourceLines) (first last : Nat) : List String :=
  (ls.lines.toList.take last).drop (first - 1)

theorem slice_eq : ls.slice first last = "\n".intercalate (ls.pick first last) := by
  unfold slice pick
  rw [Array.toList_extract, List.extract_eq_take_drop, List.drop_take]

theorem pick_of_lt (h : last < first) : ls.pick first last = [] := by
  refine List.drop_eq_nil_of_le (Nat.le_trans (List.length_take_le _ _) ?_)
  omega

/-- 次の行がファイルにあれば、それが後ろに加わる。 -/
theorem pick_succ (h : first ≤ n + 1) (hn : n < ls.count) :
    ls.pick first (n + 1) = ls.pick first n ++ [ls.line (n + 1)] := by
  have hlen : n < ls.lines.toList.length := by simpa [count] using hn
  have hline : ls.lines.toList[n]?.toList = [ls.line (n + 1)] := by
    unfold line
    rw [if_neg (Nat.succ_ne_zero n), Nat.add_sub_cancel, Array.getElem?_toList,
      Array.getElem?_eq_getElem hn]
    rfl
  unfold pick
  rw [List.take_add_one, hline, List.drop_append_of_le_length (by rw [List.length_take]; omega)]

/-- 次の行がファイルになければ、何も加わらない。 -/
theorem pick_of_count_le (h : ls.count ≤ n) : ls.pick first (n + 1) = ls.pick first n := by
  have hlen : ls.lines.toList.length ≤ n := by simpa [count] using h
  unfold pick
  rw [List.take_of_length_le hlen, List.take_of_length_le (by omega)]

theorem slice_of_lt (h : last < first) : ls.slice first last = "" := by
  rw [slice_eq, pick_of_lt h]
  rfl

theorem slice_self (hone : 1 ≤ n) (hn : n ≤ ls.count) : ls.slice n n = ls.line n := by
  obtain ⟨m, rfl⟩ := Nat.exists_eq_add_of_le' hone
  rw [slice_eq, pick_succ (Nat.le_refl _) hn, pick_of_lt (Nat.lt_succ_self m), List.nil_append,
    String.intercalate_singleton]

/-- ファイルの中で一行延ばすと、改行一つとその行の分だけ長くなる。 -/
theorem length_slice_succ (hone : 1 ≤ first) (hle : first ≤ n) (hn : n < ls.count) :
    (ls.slice first (n + 1)).length
      = (ls.slice first n).length + 1 + (ls.line (n + 1)).length := by
  have hlen : n < ls.lines.toList.length := by simpa [count] using hn
  have hne : ls.pick first n ≠ [] := by
    refine List.ne_nil_of_length_pos ?_
    unfold pick
    rw [List.length_drop, List.length_take]
    omega
  rw [slice_eq, slice_eq, pick_succ (by omega) hn,
    length_intercalate_append (List.cons_ne_nil _ _) hne, String.intercalate_singleton]
  rfl

/-- 一行延ばしても短くはならず、長くなるのは、多くても改行一つとその行の分である。 -/
theorem length_slice_succ_bounds (ls : SourceLines) (first n : Nat) :
    (ls.slice first n).length ≤ (ls.slice first (n + 1)).length
    ∧ (ls.slice first (n + 1)).length
      ≤ (ls.slice first n).length + 1 + (ls.line (n + 1)).length := by
  rw [slice_eq, slice_eq]
  by_cases hn : n < ls.count
  · by_cases hle : first ≤ n + 1
    · rw [pick_succ hle hn]
      by_cases hnil : ls.pick first n = []
      · rw [hnil, List.nil_append, String.intercalate_singleton, String.intercalate_nil,
          String.length_empty]
        omega
      · have hsep : ("\n" : String).length = 1 := rfl
        rw [length_intercalate_append (List.cons_ne_nil _ _) hnil, String.intercalate_singleton, hsep]
        omega
    · rw [pick_of_lt (by omega), pick_of_lt (by omega)]
      omega
  · rw [pick_of_count_le (by omega)]
    omega

theorem length_slice_self_le (ls : SourceLines) : ∀ n : Nat,
    (ls.slice n n).length ≤ (ls.line n).length
  | 0 => by
    rw [slice_eq]
    exact Nat.zero_le _
  | n + 1 => by
    by_cases hn : n < ls.count
    · exact Nat.le_of_eq (congrArg String.length (slice_self (by omega) hn))
    · rw [slice_eq, pick_of_count_le (by omega), pick_of_lt (Nat.lt_succ_self n)]
      exact Nat.zero_le _

/-- 後ろへ延ばすと、長さは減らない。 -/
theorem length_slice_mono (ls : SourceLines) (first : Nat) {m n : Nat} (h : m ≤ n) :
    (ls.slice first m).length ≤ (ls.slice first n).length := by
  induction h with
  | refl => exact Nat.le_refl _
  | step _ ih => exact Nat.le_trans ih (length_slice_succ_bounds ls first _).1

end SourceLines

/-! ## 詰めて切ること -/

namespace TypedSpan

variable {ls : SourceLines} {budget : Nat} {s t : TypedSpan}

/-- 予算に収まるか、一行だけであること。 -/
def Fits (ls : SourceLines) (budget : Nat) (t : TypedSpan) : Prop :=
  estimateTokens (ls.slice t.first t.last) ≤ budget ∨ t.first = t.last

/-- 次の行を加えると、予算を超えること。 -/
def Full (ls : SourceLines) (budget : Nat) (t : TypedSpan) : Prop :=
  budget < estimateTokens (ls.slice t.first (t.last + 1))

/-- 行 `n` の前まで溜めた範囲が予算に収まるか一行だけで、溜めた数が長さを下回らなければ、
残りの行で切ったものも、予算に収まるか一行だけである。 -/
theorem fits_splitLines {last : Nat} {kind : ChunkType} : ∀ {k n first chars : Nat},
    first ≤ n → first ≤ last → n + k = last + 1 →
    (first < n → estimateTokens (ls.slice first (n - 1)) ≤ budget ∨ first = n - 1) →
    (ls.slice first n).length ≤ chars + (ls.line n).length →
    ∀ t ∈ splitLines ls budget last kind first chars (List.range' n k), t.Fits ls budget
  | 0, n, first, _, _, hle, hk, hfits, _ => by
    intro t ht
    rw [List.mem_singleton.mp ht]
    have hlast : n - 1 = last := by omega
    rw [hlast] at hfits
    exact hfits (by omega)
  | k + 1, n, first, chars, hn, hle, hk, hfits, hchars => by
    have hnext := (ls.length_slice_succ_bounds first n).2
    have hself := ls.length_slice_self_le n
    have hrestart := (ls.length_slice_succ_bounds n n).2
    rw [List.range'_succ]
    unfold splitLines
    simp only []
    split
    · next hcut =>
      simp only [Bool.and_eq_true, decide_eq_true_eq] at hcut
      rintro t (_ | ⟨_, ht⟩)
      · exact hfits hcut.1
      · exact fits_splitLines (by omega) (by omega) (by omega) (fun _ => Or.inr (by omega))
          (by omega) t ht
    · next hkeep =>
      refine fits_splitLines (by omega) hle (by omega) (fun _ => ?_) (by omega)
      rw [Nat.add_sub_cancel]
      by_cases hlt : first < n
      · -- 切らなかったのは、この行まで溜めても予算に収まるからである
        simp only [hlt, decide_true, Bool.true_and, decide_eq_true_eq, Nat.not_lt] at hkeep
        refine Or.inl (Nat.le_trans (Nat.div_le_div_right ?_) hkeep)
        omega
      · exact Or.inr (by omega)

theorem splitLines_ne_nil {last : Nat} {kind : ChunkType} : ∀ {ns : List Nat} {first chars : Nat},
    splitLines ls budget last kind first chars ns ≠ []
  | [], _, _ => List.cons_ne_nil _ _
  | n :: ns, _, _ => by
    unfold splitLines
    simp only []
    split
    · exact List.cons_ne_nil _ _
    · exact splitLines_ne_nil

/-- 溜めた数が長さを上回らなければ、切ったものは、最後のほかは次の行を加えられない。 -/
theorem full_splitLines {last : Nat} {kind : ChunkType} (hlast : last ≤ ls.count) :
    ∀ {k n first chars : Nat}, 1 ≤ first → first ≤ n → n + k = last + 1 →
    (n ≤ last → chars + (ls.line n).length ≤ (ls.slice first n).length) →
    ∀ t ∈ (splitLines ls budget last kind first chars (List.range' n k)).dropLast, t.Full ls budget
  | 0, _, _, _, _, _, _, _ => nofun
  | k + 1, n, first, chars, hone, hn, hk, hchars => by
    have hchars := hchars (by omega)
    rw [List.range'_succ]
    unfold splitLines
    simp only []
    split
    · next hcut =>
      simp only [Bool.and_eq_true, decide_eq_true_eq] at hcut
      obtain ⟨hlt, hover⟩ := hcut
      rw [List.dropLast_cons_of_ne_nil splitLines_ne_nil]
      rintro t (_ | ⟨_, ht⟩)
      · show budget < estimateTokens (ls.slice first (n - 1 + 1))
        rw [Nat.sub_add_cancel (by omega)]
        refine Nat.lt_of_lt_of_le hover (Nat.div_le_div_right ?_)
        omega
      · refine full_splitLines hlast (by omega) (by omega) (by omega) (fun hin => ?_) t ht
        have hpair : (ls.slice n (n + 1)).length
            = (ls.line n).length + 1 + (ls.line (n + 1)).length := by
          rw [SourceLines.length_slice_succ (by omega) (Nat.le_refl n) (by omega),
            SourceLines.slice_self (by omega) (by omega)]
        exact Nat.le_of_eq hpair.symm
    · refine full_splitLines hlast hone (by omega) (by omega) (fun hin => ?_)
      rw [SourceLines.length_slice_succ hone hn (by omega)]
      omega

/-- **切ったものは、予算に収まるか、一行だけである。** 範囲がファイルの外に出ていてもよい。 -/
theorem fits_of_mem_splitToBudget (hbudget : 0 < budget) (ht : t ∈ splitToBudget ls budget s) :
    t.Fits ls budget := by
  unfold splitToBudget at ht
  split at ht
  · next hwhole =>
    rw [List.mem_singleton.mp ht]
    simp only [Bool.or_eq_true, decide_eq_true_eq] at hwhole
    exact Or.inl (hwhole.resolve_left (by omega))
  · next hover =>
    have hle : s.first ≤ s.last := by
      -- 逆さの範囲は空の本文になり、予算を超えない
      refine Nat.le_of_not_lt fun hlt => hover ?_
      simp [SourceLines.slice_of_lt hlt, estimateTokens]
    exact fits_splitLines (Nat.le_refl _) hle (by omega) (fun h => absurd h (Nat.lt_irrefl _))
      (by rw [Nat.zero_add]; exact ls.length_slice_self_le _) t ht

section Inside

variable (hone : 1 ≤ s.first) (hle : s.first ≤ s.last) (hlast : s.last ≤ ls.count)

include hone hle hlast

/-- 詰めて切ったものは、最後のほかは次の行を加えられない。 -/
theorem full_splitLines_range : ∀ t ∈ (splitLines ls budget s.last s.kind s.first 0
    (SourceLines.range s.first s.last)).dropLast, t.Full ls budget := by
  refine full_splitLines hlast hone (Nat.le_refl _) (by omega) fun _ => ?_
  rw [SourceLines.slice_self hone (by omega)]
  omega

/-- **予算に収まる範囲は、詰めていっても切れない。** -/
theorem splitLines_of_le (hfits : estimateTokens (ls.slice s.first s.last) ≤ budget) :
    splitLines ls budget s.last s.kind s.first 0 (SourceLines.range s.first s.last) = [s] := by
  have htiles : Tiles s.first s.last ((splitLines ls budget s.last s.kind s.first 0
      (SourceLines.range s.first s.last)).map ends) :=
    tiles_splitLines ls budget s.last s.kind _ _ _ _ (Nat.le_refl _) hle (by omega)
  have hfull : ∀ t ∈ (splitLines ls budget s.last s.kind s.first 0
      (SourceLines.range s.first s.last)).dropLast, t.Full ls budget :=
    full_splitLines_range hone hle hlast
  cases hpieces : splitLines ls budget s.last s.kind s.first 0
      (SourceLines.range s.first s.last) with
  | nil => exact absurd hpieces splitLines_ne_nil
  | cons t rest =>
    have hkind : t.kind = s.kind := kind_of_mem_splitLines (hpieces ▸ List.mem_cons_self)
    rw [hpieces] at htiles hfull
    have hfirst : t.first = s.first := htiles.1
    cases rest with
    | nil =>
      have hlast : s.last = t.last := Nat.succ.inj htiles.2.2.symm
      cases t
      cases s
      simp_all
    | cons u rest =>
      -- 二つに切れたなら、先頭は次の行で予算を超えるが、全体は超えない
      exfalso
      have hin := htiles.bounds u.ends (by simp)
      have hnext : u.first = t.last + 1 := htiles.2.2.1
      have hinside : t.last + 1 ≤ s.last := hnext ▸ Nat.le_trans hin.2.1 hin.2.2
      have hover : budget < estimateTokens (ls.slice t.first (t.last + 1)) := hfull t (by simp)
      have hmono := estimateTokens_mono (ls.length_slice_mono s.first hinside)
      rw [hfirst] at hover
      omega

/-- 収まる範囲をそのまま返す近道は、詰めて切るのと同じである。 -/
theorem splitToBudget_eq_splitLines (hbudget : 0 < budget) : splitToBudget ls budget s
    = splitLines ls budget s.last s.kind s.first 0 (SourceLines.range s.first s.last) := by
  unfold splitToBudget
  split
  · next hwhole =>
    simp only [Bool.or_eq_true, decide_eq_true_eq] at hwhole
    rw [splitLines_of_le hone hle hlast (hwhole.resolve_left (by omega))]
  · rfl

/-- **切ったものは、最後のほかは次の行を加えられない。** -/
theorem full_of_mem_dropLast (hbudget : 0 < budget) :
    ∀ t ∈ (splitToBudget ls budget s).dropLast, t.Full ls budget := by
  rw [splitToBudget_eq_splitLines hone hle hlast hbudget]
  exact full_splitLines_range hone hle hlast

end Inside

end TypedSpan

namespace Chunking

open TypedSpan

/-- 断片は予算に収まるか、一行だけである。 -/
theorem fits_of_mem_assemble {path : String} {language : Language} {ls : SourceLines}
    {spans : List Span} {budget : Nat} (hbudget : 0 < budget) {c : Chunk}
    (hc : c ∈ assemble path language ls spans budget) :
    estimateTokens c.text ≤ budget ∨ c.firstLine = c.lastLine := by
  obtain ⟨t, ht, i, rfl⟩ := LinePartition.exists_of_mem_numbered hc
  obtain ⟨s, -, hts⟩ := List.mem_flatMap.mp (List.mem_filter.mp ht).1
  exact fits_of_mem_splitToBudget hbudget hts

/--
**予算に合わせて切ると、前から詰められるだけ詰めたものになる。**

ファイルの中のどの範囲も、同じ種類の続いた範囲に切れ、元の範囲をちょうど覆う。どれも予算に収まるか
一行だけで、最後のほかは次の行を加えると予算を超える。収まる範囲をそのまま返すのも、詰めて切るのと
同じである。したがって、どの断片も予算に収まるか一行だけである。
-/
theorem splitToBudget_greedy (ls : SourceLines) {budget : Nat} (hbudget : 0 < budget) :
    (∀ s : TypedSpan, 1 ≤ s.first → s.first ≤ s.last → s.last ≤ ls.count →
      Tiles s.first s.last ((splitToBudget ls budget s).map ends)
      ∧ (∀ t ∈ splitToBudget ls budget s, t.kind = s.kind ∧ t.Fits ls budget)
      ∧ (∀ t ∈ (splitToBudget ls budget s).dropLast, t.Full ls budget)
      ∧ splitToBudget ls budget s
        = splitLines ls budget s.last s.kind s.first 0 (SourceLines.range s.first s.last))
    ∧ ∀ path language spans, ∀ c ∈ assemble path language ls spans budget,
        estimateTokens c.text ≤ budget ∨ c.firstLine = c.lastLine := by
  refine ⟨fun s hone hle hlast => ?_, fun _ _ _ c hc => fits_of_mem_assemble hbudget hc⟩
  refine ⟨tiles_splitToBudget ls budget s hle, fun t ht => ?_,
    full_of_mem_dropLast hone hle hlast hbudget, splitToBudget_eq_splitLines hone hle hlast hbudget⟩
  exact ⟨kind_of_mem_splitToBudget ht, fits_of_mem_splitToBudget hbudget ht⟩

/-- 短い行、空行、予算を超える一行が並ぶ本文。 -/
def ragged : SourceLines := .ofText "ab\ncd\n\nefghijklmnop\nq\n"

/-- 予算 2 では、短い行は空行と一緒に詰まり、予算を超える一行はそのまま残る。 -/
theorem ragged_splits :
    0 < 2
    ∧ splitToBudget ragged 2 ⟨1, 5, .function⟩
      = [⟨1, 3, .function⟩, ⟨4, 4, .function⟩, ⟨5, 5, .function⟩]
    ∧ Fits ragged 2 ⟨4, 4, .function⟩ ∧ 2 < estimateTokens (ragged.slice 4 4)
    ∧ Full ragged 2 ⟨1, 3, .function⟩ ∧ Full ragged 2 ⟨4, 4, .function⟩ := by
  have hpieces : splitToBudget ragged 2 ⟨1, 5, .function⟩
      = [⟨1, 3, .function⟩, ⟨4, 4, .function⟩, ⟨5, 5, .function⟩] := by decide +kernel
  obtain ⟨-, hfits, hfull, -⟩ := (splitToBudget_greedy ragged (show 0 < 2 by decide)).1
    ⟨1, 5, .function⟩ (by decide) (by decide) (by decide +kernel)
  rw [hpieces] at hfits hfull
  exact ⟨by decide, hpieces, (hfits _ (by simp)).2, by decide +kernel, hfull _ (by simp),
    hfull _ (by simp)⟩

end Chunking

end CodeSearch
