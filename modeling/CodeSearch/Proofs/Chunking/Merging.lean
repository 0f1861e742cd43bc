import CodeSearch.Proofs.Chunking.Partition
import Mathlib.Data.List.Chain

/-!
# まとめた変数の範囲

変数の範囲が並ぶとき、前の範囲の最後の空白でない行から次の範囲の始まりまでの空行が少なければ、
二つは一つにまとまる。比べる相手はそこまでまとめた範囲だが、その最後の空白でない行は、最後に加えた
範囲のものである（`EndsAt.extend`）。したがって、並んだ二つの範囲だけを見て、先にまとめておいても、
そこで切り離しても、結果は変わらない。

* `mergeVariables_join` — まとまる二つは、先に一つにしておいてよい
* `mergeVariables_cut` — まとまらない二つの間では、切り離してまとめてよい
* `together_iff` — 並んだ範囲が一つになるのは、隣どうしがどれもまとまるときである
* `mergeVariables_runs` — まとめた範囲は、まとまる範囲の最も長い並びである
-/

namespace CodeSearch

namespace SourceLines

/-! ## 最後の空白でない行 -/

/-- 範囲の最後の空白でない行が `n` であること。 -/
structure EndsAt (ls : SourceLines) (first last n : Nat) : Prop where
  first_le : first ≤ n
  le_last : n ≤ last
  content : ls.isBlankLine n = false
  blank_after : ∀ m, n < m → m ≤ last → ls.isBlankLine m = true

variable {ls : SourceLines} {first last n : Nat}

theorem EndsAt.unique {m : Nat} (hm : ls.EndsAt first last m) (hn : ls.EndsAt first last n) :
    m = n := by
  rcases Nat.lt_trichotomy m n with hlt | heq | hlt
  · have := hm.blank_after n hlt hn.le_last
    rw [hn.content] at this
    cases this
  · exact heq
  · have := hn.blank_after m hlt hm.le_last
    rw [hm.content] at this
    cases this

/-- 前の行を加えても、最後の空白でない行は変わらない。 -/
theorem EndsAt.extend {mid : Nat} (h : ls.EndsAt mid last n) (hle : first ≤ mid) :
    ls.EndsAt first last n :=
  { h with first_le := Nat.le_trans hle h.first_le }

/-- 空白でない行があれば、後ろから探して見つかるものは最後の空白でない行である。 -/
theorem endsAt_lastContentLine (hfirst : first ≤ n) (hlast : n ≤ last)
    (hcontent : ls.isBlankLine n = false) :
    ls.EndsAt first last (ls.lastContentLine first last) := by
  unfold lastContentLine
  cases hfind : (range first last).reverse.find? (fun n => !ls.isBlankLine n) with
  | none =>
    have := List.find?_eq_none.mp hfind n (List.mem_reverse.mpr (mem_range.mpr ⟨hfirst, hlast⟩))
    simp [hcontent] at this
  | some k =>
    obtain ⟨hk, before, after, hsplit, hbefore⟩ := List.find?_eq_some_iff_append.mp hfind
    have hdesc : (before ++ k :: after).Pairwise (· > ·) := by
      rw [← hsplit, List.pairwise_reverse]
      exact List.pairwise_lt_range'
    obtain ⟨hkfirst, hklast⟩ := mem_range.mp (List.mem_reverse.mp (List.mem_of_find?_eq_some hfind))
    rw [Option.getD_some]
    refine ⟨hkfirst, hklast, by simpa using hk, fun m hkm hm => ?_⟩
    -- 後ろから数えるので、`k` より大きい行は `k` の前に並び、どれも空白だけである
    have hmem : m ∈ before ++ k :: after := by
      rw [← hsplit, List.mem_reverse, mem_range]
      omega
    rcases List.mem_append.mp hmem with hmem | hmem
    · simpa using hbefore m hmem
    · exfalso
      rcases List.mem_cons.mp hmem with rfl | hmem
      · exact Nat.lt_irrefl _ hkm
      · exact Nat.lt_asymm hkm
          (List.rel_of_pairwise_cons (List.pairwise_append.mp hdesc).2.1 hmem)

end SourceLines

namespace TypedSpan

variable {ls : SourceLines} {a b c s t : TypedSpan} {before after rest ss : List TypedSpan}

/-! ## まとまる二つ -/

/-- 空白でない行を含むこと。 -/
def Filled (ls : SourceLines) (s : TypedSpan) : Prop :=
  ∃ n, s.first ≤ n ∧ n ≤ s.last ∧ ls.isBlankLine n = false

/-- 並んだ二つの範囲がまとまること。どちらも変数で、前の範囲の最後の空白でない行と次の範囲の始まりとの
間に、空行が `maxMergeGap` 行までしかない。 -/
structure Joins (ls : SourceLines) (a b : TypedSpan) : Prop where
  left : a.kind = .variable
  right : b.kind = .variable
  near : ∃ n, ls.EndsAt a.first a.last n ∧ b.first - (n + 1) ≤ maxMergeGap

theorem Filled.endsAt (h : a.Filled ls) :
    ls.EndsAt a.first a.last (ls.lastContentLine a.first a.last) := by
  obtain ⟨n, hfirst, hlast, hcontent⟩ := h
  exact SourceLines.endsAt_lastContentLine hfirst hlast hcontent

theorem merges_iff (ha : a.Filled ls) : merges ls a b = true ↔ Joins ls a b := by
  unfold merges
  rw [Bool.and_eq_true, Bool.and_eq_true, beq_iff_eq, beq_iff_eq, decide_eq_true_eq]
  constructor
  · rintro ⟨⟨hleft, hright⟩, hgap⟩
    exact ⟨hleft, hright, _, ha.endsAt, hgap⟩
  · rintro ⟨hleft, hright, n, hn, hgap⟩
    rw [ha.endsAt.unique hn]
    exact ⟨⟨hleft, hright⟩, hgap⟩

theorem Filled.fuse (hb : b.Filled ls) (hle : a.first ≤ b.first) : (a.fuse b).Filled ls := by
  obtain ⟨n, hfirst, hlast, hcontent⟩ := hb
  exact ⟨n, Nat.le_trans hle hfirst, hlast, hcontent⟩

/-- まとめた範囲が次とまとまるかは、最後に加えた範囲だけで決まる。 -/
theorem joins_fuse_left (ha : a.kind = .variable) (hb : b.kind = .variable) (hfilled : b.Filled ls)
    (hle : a.first ≤ b.first) : Joins ls (a.fuse b) c ↔ Joins ls b c := by
  have hends : ls.EndsAt (a.fuse b).first (a.fuse b).last _ := hfilled.endsAt.extend hle
  constructor
  · rintro ⟨-, hc, n, hn, hgap⟩
    rw [hn.unique hends] at hgap
    exact ⟨hb, hc, _, hfilled.endsAt, hgap⟩
  · rintro ⟨-, hc, n, hn, hgap⟩
    exact ⟨ha, hc, n, hn.extend hle, hgap⟩

theorem merges_fuse_left (hmerge : merges ls a b = true) (hfilled : b.Filled ls)
    (hle : a.first ≤ b.first) : merges ls (a.fuse b) c = merges ls b c := by
  obtain ⟨ha, hb⟩ := kinds_of_merges hmerge
  rw [Bool.eq_iff_iff, merges_iff (hfilled.fuse hle), merges_iff hfilled]
  exact joins_fuse_left ha hb hfilled hle

/-! ## 二つだけを見てまとめる -/

/-- 前の部分を見終えると、済んだ範囲と、続きを待つ範囲が決まる。後ろに何が来てもよい。 -/
theorem exists_mergeFrom_append (ls : SourceLines) : ∀ (before : List TypedSpan) (s : TypedSpan),
    ∃ done cur, (∃ t ∈ s :: before, cur.first = t.first)
      ∧ ∀ rest, mergeFrom ls s (before ++ rest) = done ++ mergeFrom ls cur rest
  | [], s => ⟨[], s, ⟨s, List.mem_cons_self, rfl⟩, fun _ => rfl⟩
  | c :: before, s => by
    cases hsc : merges ls s c with
    | true =>
      obtain ⟨done, cur, ⟨t, ht, hfirst⟩, happend⟩ := exists_mergeFrom_append ls before (s.fuse c)
      refine ⟨done, cur, ?_, fun rest => ?_⟩
      · rcases List.mem_cons.mp ht with rfl | ht
        · exact ⟨s, List.mem_cons_self, hfirst⟩
        · exact ⟨t, List.mem_cons_of_mem s (List.mem_cons_of_mem c ht), hfirst⟩
      · rw [List.cons_append, mergeFrom_cons_of_merges hsc, happend]
    | false =>
      obtain ⟨done, cur, ⟨t, ht, hfirst⟩, happend⟩ := exists_mergeFrom_append ls before c
      refine ⟨s :: done, cur, ⟨t, List.mem_cons_of_mem s ht, hfirst⟩, fun rest => ?_⟩
      rw [List.cons_append, mergeFrom_cons_of_not_merges hsc, happend, List.cons_append]

/-- **まとまる二つは、先に一つにしておいてよい。** -/
theorem mergeVariables_join (hmerge : merges ls a b = true) (ha : a.Filled ls)
    (hle : ∀ t ∈ before, t.first ≤ a.first) :
    mergeVariables ls (before ++ a :: b :: after) = mergeVariables ls (before ++ a.fuse b :: after) := by
  cases before with
  | nil => exact mergeFrom_cons_of_merges hmerge
  | cons s before =>
    obtain ⟨done, cur, ⟨t, ht, hfirst⟩, happend⟩ := exists_mergeFrom_append ls before s
    show mergeFrom ls s (before ++ _) = mergeFrom ls s (before ++ _)
    rw [happend, happend]
    cases hcur : merges ls cur a with
    | true =>
      have hnext : merges ls (cur.fuse a) b = true := by
        rw [merges_fuse_left hcur ha (hfirst ▸ hle t ht), hmerge]
      -- `a` を `b` まで延ばしても、始まりと種類は同じなので、前とのまとまり方は変わらない
      have hfused : merges ls cur (a.fuse b) = true := hcur
      rw [mergeFrom_cons_of_merges hcur, mergeFrom_cons_of_merges hnext,
        mergeFrom_cons_of_merges hfused]
      rfl
    | false =>
      have hfused : merges ls cur (a.fuse b) = false := hcur
      rw [mergeFrom_cons_of_not_merges hcur, mergeFrom_cons_of_merges hmerge,
        mergeFrom_cons_of_not_merges hfused]

/-- **まとまらない二つの間では、切り離してまとめてよい。** -/
theorem mergeVariables_cut (hcut : merges ls a b = false) (ha : a.Filled ls)
    (hle : ∀ t ∈ before, t.first ≤ a.first) :
    mergeVariables ls (before ++ a :: b :: after)
      = mergeVariables ls (before ++ [a]) ++ mergeVariables ls (b :: after) := by
  cases before with
  | nil => exact mergeFrom_cons_of_not_merges hcut
  | cons s before =>
    obtain ⟨done, cur, ⟨t, ht, hfirst⟩, happend⟩ := exists_mergeFrom_append ls before s
    show mergeFrom ls s (before ++ _) = mergeFrom ls s (before ++ _) ++ mergeFrom ls b after
    rw [happend, happend, List.append_assoc]
    cases hcur : merges ls cur a with
    | true =>
      have hnext : merges ls (cur.fuse a) b = false := by
        rw [merges_fuse_left hcur ha (hfirst ▸ hle t ht), hcut]
      rw [mergeFrom_cons_of_merges hcur, mergeFrom_cons_of_not_merges hnext,
        mergeFrom_cons_of_merges hcur]
      rfl
    | false =>
      rw [mergeFrom_cons_of_not_merges hcur, mergeFrom_cons_of_not_merges hcut,
        mergeFrom_cons_of_not_merges hcur]
      rfl

/-! ## 一つになる範囲 -/

/-- `s` のすべての行を含むこと。 -/
def Includes (t s : TypedSpan) : Prop := t.first ≤ s.first ∧ s.last ≤ t.last

/-- 隣り合う二つを一つにしたものを含むなら、二つとも含む。 -/
theorem Includes.of_fuse (h : t.Includes (a.fuse b)) (hfirst : a.first ≤ b.first)
    (hlast : a.last ≤ b.last) : t.Includes a ∧ t.Includes b := by
  obtain ⟨htfirst, htlast⟩ := h
  rw [fuse_first] at htfirst
  rw [fuse_last] at htlast
  exact ⟨⟨htfirst, Nat.le_trans hlast htlast⟩, Nat.le_trans htfirst hfirst, htlast⟩

/-- `out` の一つの範囲が、`run` の範囲をすべて含むこと。 -/
def Together (out run : List TypedSpan) : Prop := ∃ t ∈ out, ∀ s ∈ run, t.Includes s

section Contiguous

variable {first last : Nat}

theorem first_le_of_tiles (h : Tiles first last ((before ++ a :: after).map ends)) :
    ∀ t ∈ before, t.first ≤ a.first := by
  intro t ht
  have hbounds := h.bounds t.ends (List.mem_map_of_mem (List.mem_append_left _ ht))
  have hlt : t.last < a.first :=
    (List.pairwise_append.mp (List.pairwise_map.mp h.pairwise)).2.2 t ht a List.mem_cons_self
  have : t.first ≤ t.last := hbounds.2.1
  omega

theorem exists_includes_mergeFrom (ls : SourceLines) : ∀ {rest : List TypedSpan} {s : TypedSpan}
    {first : Nat}, Tiles first last ((s :: rest).map ends) →
    ∀ u ∈ s :: rest, ∃ t ∈ mergeFrom ls s rest, t.Includes u
  | [], s, _, _, u, hu => by
    rw [List.mem_singleton.mp hu]
    exact ⟨s, List.mem_cons_self, Nat.le_refl _, Nat.le_refl _⟩
  | c :: rest, s, first, h, u, hu => by
    have hnext := @next_of_tiles s c [] rest first last h
    cases hmerge : merges ls s c with
    | true =>
      rw [mergeFrom_cons_of_merges hmerge]
      have hfused := exists_includes_mergeFrom ls (@tiles_fuse s c [] rest first last h)
      obtain ⟨t, ht, hincl⟩ := hfused _ List.mem_cons_self
      obtain ⟨hs, hc⟩ := hincl.of_fuse (by omega) (by omega)
      rcases List.mem_cons.mp hu with rfl | hu
      · exact ⟨t, ht, hs⟩
      · rcases List.mem_cons.mp hu with rfl | hu
        · exact ⟨t, ht, hc⟩
        · exact hfused u (List.mem_cons_of_mem _ hu)
    | false =>
      rw [mergeFrom_cons_of_not_merges hmerge]
      rcases List.mem_cons.mp hu with rfl | hu
      · exact ⟨u, List.mem_cons_self, Nat.le_refl _, Nat.le_refl _⟩
      · obtain ⟨t, ht, hincl⟩ := exists_includes_mergeFrom ls h.2.2 u hu
        exact ⟨t, List.mem_cons_of_mem s ht, hincl⟩

/-- どの範囲も、まとめた範囲のどれかに含まれる。 -/
theorem exists_includes (ls : SourceLines) (h : Tiles first last (ss.map ends)) :
    ∀ u ∈ ss, ∃ t ∈ mergeVariables ls ss, t.Includes u := by
  cases ss with
  | nil => exact nofun
  | cons s rest => exact exists_includes_mergeFrom ls h

/-- 隣どうしがどれもまとまるなら、一つになる。 -/
theorem together_of_isChain : ∀ {run : List TypedSpan} {a : TypedSpan},
    Tiles first last ((before ++ a :: run ++ after).map ends) →
    (∀ s ∈ before ++ a :: run ++ after, s.Filled ls) → (a :: run).IsChain (Joins ls) →
    Together (mergeVariables ls (before ++ a :: run ++ after)) (a :: run)
  | [], a, h, _, _ => by
    obtain ⟨t, ht, hincl⟩ := exists_includes ls h a (by simp)
    exact ⟨t, ht, by simpa using hincl⟩
  | b :: run, a, h, hfilled, hchain => by
    obtain ⟨hjoin, hrest⟩ := List.isChain_cons_cons.mp hchain
    rw [List.append_assoc, List.cons_append, List.cons_append] at h hfilled ⊢
    have ha : a.Filled ls := hfilled a (by simp)
    have hb : b.Filled ls := hfilled b (by simp)
    have hnext := next_of_tiles h
    have hfused : (a.fuse b).Filled ls := hb.fuse (by omega)
    rw [mergeVariables_join ((merges_iff ha).mpr hjoin) ha (first_le_of_tiles h)]
    -- 二つを一つにした範囲から始まる、一つ短い並びに帰着する
    have htogether : Together (mergeVariables ls (before ++ a.fuse b :: run ++ after))
        (a.fuse b :: run) := by
      refine together_of_isChain ?_ ?_ ?_
      · rw [List.append_assoc]
        exact tiles_fuse h
      · intro s hs
        rw [List.append_assoc] at hs
        rcases List.mem_append.mp hs with hs | hs
        · exact hfilled s (List.mem_append_left _ hs)
        · rcases List.mem_cons.mp hs with rfl | hs
          · exact hfused
          · exact hfilled s (by simp [List.mem_append.mp hs])
      · obtain ⟨hhead, htail⟩ := List.isChain_cons.mp hrest
        refine List.isChain_cons.mpr ⟨fun c hc => ?_, htail⟩
        exact (joins_fuse_left hjoin.left hjoin.right hb (by omega)).mpr (hhead c hc)
    rw [List.append_assoc] at htogether
    obtain ⟨t, ht, hincl⟩ := htogether
    obtain ⟨hpair, hrun⟩ := List.forall_mem_cons.mp hincl
    obtain ⟨hta, htb⟩ := hpair.of_fuse (by omega) (by omega)
    exact ⟨t, ht, List.forall_mem_cons.mpr ⟨hta, List.forall_mem_cons.mpr ⟨htb, hrun⟩⟩⟩

/-- まとまらない隣どうしは、一つにならない。 -/
theorem not_includes_both (h : Tiles first last ((before ++ a :: b :: after).map ends))
    (ha : a.Filled ls) (hcut : merges ls a b = false) :
    ∀ t ∈ mergeVariables ls (before ++ a :: b :: after), ¬(t.Includes a ∧ t.Includes b) := by
  rintro t ht ⟨⟨hta, -⟩, -, htb⟩
  have hnext := next_of_tiles h
  rw [mergeVariables_cut hcut ha (first_le_of_tiles h)] at ht
  rw [List.map_append, List.map_cons] at h
  obtain ⟨hfront, hback⟩ := h.split
  rcases List.mem_append.mp ht with ht | ht
  · have hfront : Tiles first a.last ((before ++ [a]).map ends) := by
      rwa [List.map_append]
    have hle : t.last ≤ a.last :=
      ((tiles_mergeVariables ls hfront).bounds t.ends (List.mem_map_of_mem ht)).2.2
    omega
  · have hmerged : Tiles (a.last + 1) last ((mergeVariables ls (b :: after)).map ends) :=
      tiles_mergeVariables ls hback
    have hle : a.last + 1 ≤ t.first := (hmerged.bounds t.ends (List.mem_map_of_mem ht)).1
    omega

/-- **並んだ範囲が一つになるのは、隣どうしがどれもまとまるときである。** -/
theorem together_iff {run : List TypedSpan}
    (h : Tiles first last ((before ++ run ++ after).map ends))
    (hfilled : ∀ s ∈ before ++ run ++ after, s.Filled ls) (hne : run ≠ []) :
    Together (mergeVariables ls (before ++ run ++ after)) run ↔ run.IsChain (Joins ls) := by
  constructor
  · rintro ⟨t, ht, hincl⟩
    refine List.isChain_iff_forall_rel_of_append_cons_cons.mpr fun a b pre post hrun => ?_
    subst hrun
    have ha : a.Filled ls := hfilled a (by simp)
    rw [← merges_iff ha, ← Bool.not_eq_false]
    intro hcut
    have hsplit : before ++ (pre ++ a :: b :: post) ++ after
        = (before ++ pre) ++ a :: b :: (post ++ after) := by simp
    rw [hsplit] at h ht
    exact not_includes_both h ha hcut t ht ⟨hincl a (by simp), hincl b (by simp)⟩
  · obtain ⟨a, rest, rfl⟩ := List.exists_cons_of_ne_nil hne
    exact together_of_isChain h hfilled

end Contiguous

/-! ## まとめ直すこと -/

theorem exists_mergeFrom_eq_cons (ls : SourceLines) : ∀ (rest : List TypedSpan) (s : TypedSpan),
    ∃ t ts, mergeFrom ls s rest = t :: ts ∧ t.first = s.first ∧ t.kind = s.kind
  | [], s => ⟨s, [], rfl, rfl, rfl⟩
  | c :: rest, s => by
    cases hsc : merges ls s c with
    | true =>
      rw [mergeFrom_cons_of_merges hsc]
      exact exists_mergeFrom_eq_cons ls rest (s.fuse c)
    | false =>
      rw [mergeFrom_cons_of_not_merges hsc]
      exact ⟨s, _, rfl, rfl, rfl⟩

/-- まとめた範囲の隣どうしは、もうまとまらない。 -/
theorem isChain_mergeFrom (ls : SourceLines) : ∀ (rest : List TypedSpan) (s : TypedSpan),
    (mergeFrom ls s rest).IsChain fun a b => merges ls a b = false
  | [], s => List.isChain_singleton s
  | c :: rest, s => by
    cases hsc : merges ls s c with
    | true =>
      rw [mergeFrom_cons_of_merges hsc]
      exact isChain_mergeFrom ls rest _
    | false =>
      have hrest := isChain_mergeFrom ls rest c
      rw [mergeFrom_cons_of_not_merges hsc]
      obtain ⟨t, ts, heq, hfirst, hkind⟩ := exists_mergeFrom_eq_cons ls rest c
      rw [heq] at hrest ⊢
      refine List.isChain_cons_cons.mpr ⟨?_, hrest⟩
      -- まとまるかは、次の範囲の始まりと種類だけによる
      unfold merges at hsc ⊢
      rw [hfirst, hkind]
      exact hsc

theorem mergeFrom_of_isChain : ∀ {rest : List TypedSpan} {s : TypedSpan},
    (s :: rest).IsChain (fun a b => merges ls a b = false) → mergeFrom ls s rest = s :: rest
  | [], _, _ => rfl
  | c :: rest, s, h => by
    obtain ⟨hsc, hrest⟩ := List.isChain_cons_cons.mp h
    rw [mergeFrom_cons_of_not_merges hsc, mergeFrom_of_isChain hrest]

theorem mergeVariables_idem (ls : SourceLines) (ss : List TypedSpan) :
    mergeVariables ls (mergeVariables ls ss) = mergeVariables ls ss := by
  cases ss with
  | nil => rfl
  | cons s rest =>
    have hchain := isChain_mergeFrom ls rest s
    show mergeVariables ls (mergeFrom ls s rest) = mergeFrom ls s rest
    obtain ⟨t, ts, heq, -, -⟩ := exists_mergeFrom_eq_cons ls rest s
    rw [heq] at hchain ⊢
    exact mergeFrom_of_isChain hchain

/-- 変数でない範囲か。 -/
def fixed (s : TypedSpan) : Bool := s.kind != .variable

theorem filter_fixed_mergeFrom (ls : SourceLines) : ∀ (rest : List TypedSpan) (s : TypedSpan),
    (mergeFrom ls s rest).filter fixed = (s :: rest).filter fixed
  | [], _ => rfl
  | c :: rest, s => by
    cases hsc : merges ls s c with
    | true =>
      obtain ⟨hsv, hcv⟩ := kinds_of_merges hsc
      have hs : fixed s = false := by simp [fixed, hsv]
      have hc : fixed c = false := by simp [fixed, hcv]
      have hfused : fixed (s.fuse c) = false := hs
      rw [mergeFrom_cons_of_merges hsc, filter_fixed_mergeFrom ls rest]
      simp [hs, hc, hfused]
    | false =>
      rw [mergeFrom_cons_of_not_merges hsc, List.filter_cons, filter_fixed_mergeFrom ls rest c,
        ← List.filter_cons]

/-- 変数でない範囲は、順も中身もそのまま残る。 -/
theorem filter_fixed_mergeVariables (ls : SourceLines) (ss : List TypedSpan) :
    (mergeVariables ls ss).filter fixed = ss.filter fixed := by
  cases ss with
  | nil => rfl
  | cons s rest => exact filter_fixed_mergeFrom ls rest s

/--
**まとめた範囲は、まとまる範囲の最も長い並びである。**

隙間なく並び、どれも空白でない行を含む範囲をまとめると、同じ行を覆い、変数でない範囲はそのまま残る。
並んだ二つの範囲が一つになるのは、どちらも変数で間の空行が `maxMergeGap` 行までのときに限り、
長い並びが一つになるのは、隣どうしがどれもそうなるときに限る。まとめ直しても変わらない。
-/
theorem mergeVariables_runs (ls : SourceLines) {first last : Nat} {ss : List TypedSpan}
    (htiles : Tiles first last (ss.map ends)) (hfilled : ∀ s ∈ ss, s.Filled ls) :
    Tiles first last ((mergeVariables ls ss).map ends)
    ∧ (mergeVariables ls ss).filter fixed = ss.filter fixed
    ∧ (∀ before a b after, ss = before ++ a :: b :: after →
        ((∃ t ∈ mergeVariables ls ss, t.Includes a ∧ t.Includes b) ↔ Joins ls a b))
    ∧ (∀ before run after, ss = before ++ run ++ after → run ≠ [] →
        (Together (mergeVariables ls ss) run ↔ run.IsChain (Joins ls)))
    ∧ mergeVariables ls (mergeVariables ls ss) = mergeVariables ls ss := by
  have hruns : ∀ before run after, ss = before ++ run ++ after → run ≠ [] →
      (Together (mergeVariables ls ss) run ↔ run.IsChain (Joins ls)) := by
    rintro before run after rfl hne
    exact together_iff htiles hfilled hne
  refine ⟨tiles_mergeVariables ls htiles, filter_fixed_mergeVariables ls ss, ?_, hruns,
    mergeVariables_idem ls ss⟩
  intro before a b after hss
  have hpair := hruns before [a, b] after (by simpa using hss) (by simp)
  rw [List.isChain_pair] at hpair
  rw [← hpair]
  simp [Together]

/-- 三つの変数。一つ目と二つ目の間の空行は一行、二つ目と三つ目の間は三行である。 -/
def constants : SourceLines :=
  .ofText "const a = 1;\n\nconst b = 2;\n\n\n\nconst c = 3;\n"

/-- 空行が一行なら一つになり、三行なら別の範囲のまま残る。 -/
theorem constants_merge :
    mergeVariables constants [⟨1, 2, .variable⟩, ⟨3, 6, .variable⟩, ⟨7, 7, .variable⟩]
      = [⟨1, 6, .variable⟩, ⟨7, 7, .variable⟩]
    ∧ Joins constants ⟨1, 2, .variable⟩ ⟨3, 6, .variable⟩
    ∧ ¬Joins constants ⟨3, 6, .variable⟩ ⟨7, 7, .variable⟩ := by
  have hmerged : mergeVariables constants
      [⟨1, 2, .variable⟩, ⟨3, 6, .variable⟩, ⟨7, 7, .variable⟩]
      = [⟨1, 6, .variable⟩, ⟨7, 7, .variable⟩] := by decide +kernel
  have hfilled : ∀ s ∈ [(⟨1, 2, .variable⟩ : TypedSpan), ⟨3, 6, .variable⟩, ⟨7, 7, .variable⟩],
      s.Filled constants := by
    simp only [List.forall_mem_cons, List.not_mem_nil, false_imp_iff, implies_true, and_true]
    refine ⟨⟨1, ?_⟩, ⟨3, ?_⟩, ⟨7, ?_⟩⟩ <;> decide +kernel
  have htiles : Tiles 1 7 ([(⟨1, 2, .variable⟩ : TypedSpan), ⟨3, 6, .variable⟩,
      ⟨7, 7, .variable⟩].map ends) := ⟨rfl, by decide, rfl, by decide, rfl, by decide, rfl⟩
  obtain ⟨-, -, hpair, -, -⟩ := mergeVariables_runs constants htiles hfilled
  rw [hmerged] at hpair
  refine ⟨hmerged, (hpair [] _ _ [_] rfl).mp ?_, fun hjoins => ?_⟩
  · exact ⟨_, List.mem_cons_self, ⟨by decide, by decide⟩, by decide, by decide⟩
  · obtain ⟨t, ht, ⟨hfirst, -⟩, -, hlast⟩ := (hpair [_] _ _ [] rfl).mpr hjoins
    simp only [List.mem_cons, List.not_mem_nil, or_false] at ht
    rcases ht with rfl | rfl
    · exact absurd hlast (by decide)
    · exact absurd hfirst (by decide)

end TypedSpan

end CodeSearch
