import CodeSearch.Proofs.Chunking.Governing
import Mathlib.Data.List.Chain
import Mathlib.Data.List.Perm.Basic

/-!
# 整えた切れ目

整えると、どの行からも最初に見つけた切れ目だけが行の順に残り、取り込みや公開の切れ目が続くところは
先頭だけになる。畳むときに比べる相手は直前に残した切れ目だが、結果は、一つ前の行で見つけた切れ目だけで
決まる。落とした切れ目も、取り込みか公開だからである（`collapseFrom_cons`）。

* `mem_byLine` — 行の順に並べると、各行で最初に見つけたものが残る
* `mem_normalize` — 整えて残るのは、続きでないものである
* `isChain_normalize` — 残った取り込みや公開の切れ目は隣り合わない
* `normalize_exact` — 以上に加えて、続きの先頭、整え直し、見つけた順について言う
-/

namespace CodeSearch.Breakpoint

variable {ps qs xs ys : List Breakpoint} {p q : Breakpoint} {inRun : Bool}

/-! ## 最初に見つけた切れ目 -/

/-- `p` が、その行で最初に見つけた切れ目であること。 -/
def First (ps : List Breakpoint) (p : Breakpoint) : Prop :=
  ps.find? (fun q => q.line == p.line) = some p

theorem First.mem (h : First ps p) : p ∈ ps := List.mem_of_find?_eq_some h

theorem first_cons : First (q :: ps) p ↔ p = q ∨ (q.line ≠ p.line ∧ First ps p) := by
  unfold First
  by_cases hline : q.line = p.line
  · rw [List.find?_cons_of_pos (by simpa using hline)]
    constructor
    · exact fun h => Or.inl (Option.some.inj h).symm
    · rintro (rfl | ⟨hne, -⟩)
      · rfl
      · exact absurd hline hne
  · rw [List.find?_cons_of_neg (by simpa using hline)]
    constructor
    · exact fun h => Or.inr ⟨hline, h⟩
    · rintro (rfl | ⟨-, h⟩)
      · exact absurd rfl hline
      · exact h

/-- どの行の切れ目にも、最初に見つけたものがある。 -/
theorem exists_first (h : q ∈ ps) : ∃ p, First ps p ∧ p.line = q.line := by
  obtain ⟨p, hp⟩ : ∃ p, ps.find? (fun r => r.line == q.line) = some p :=
    Option.isSome_iff_exists.mp (List.find?_isSome.mpr ⟨q, h, by simp⟩)
  have hline : p.line = q.line := by simpa using List.find?_some hp
  exact ⟨p, by unfold First; rw [hline]; exact hp, hline⟩

/-- 昇順の列では、どの切れ目も最初に見つけたものである。 -/
theorem Ascending.first_iff (hasc : Ascending ps) : First ps p ↔ p ∈ ps := by
  refine ⟨First.mem, fun hp => ?_⟩
  obtain ⟨q, hq, hline⟩ := exists_first hp
  rwa [← hasc.eq_of_line_eq hq.mem hp hline]

/-! ## 行の順に並べること -/

theorem mem_insertByLine_iff (hasc : Ascending qs) :
    q ∈ insertByLine p qs ↔ q ∈ qs ∨ (q = p ∧ ∀ r ∈ qs, r.line ≠ p.line) := by
  induction qs with
  | nil => simp [insertByLine]
  | cons s rest ih =>
    have hafter : ∀ r ∈ rest, s.line < r.line := fun r hr => List.rel_of_pairwise_cons hasc hr
    unfold insertByLine
    split
    · next hlt =>
      have hnew : ∀ r ∈ s :: rest, r.line ≠ p.line := by
        rintro r (_ | ⟨_, hr⟩)
        · omega
        · have := hafter r hr
          omega
      rw [List.mem_cons, or_comm]
      exact or_congr_right ⟨fun h => ⟨h, hnew⟩, And.left⟩
    · split
      · next hline =>
        refine ⟨Or.inl, ?_⟩
        rintro (h | ⟨-, hnew⟩)
        · exact h
        · exact absurd hline.symm (hnew s List.mem_cons_self)
      · next hne =>
        rw [List.mem_cons, ih hasc.of_cons, List.mem_cons, List.forall_mem_cons, or_assoc]
        refine or_congr_right (or_congr_right (and_congr_right fun _ => ?_))
        exact ⟨fun h => ⟨fun heq => hne heq.symm, h⟩, And.right⟩

theorem mem_foldl_insertByLine_iff {acc : List Breakpoint} (hasc : Ascending acc) :
    p ∈ ps.foldl (fun acc p => insertByLine p acc) acc
      ↔ p ∈ acc ∨ (First ps p ∧ ∀ q ∈ acc, q.line ≠ p.line) := by
  induction ps generalizing acc with
  | nil => simp [First]
  | cons s rest ih =>
    rw [List.foldl_cons, ih hasc.insertByLine, mem_insertByLine_iff hasc, first_cons]
    constructor
    · rintro ((h | ⟨rfl, hnew⟩) | ⟨hfirst, hnew⟩)
      · exact Or.inl h
      · exact Or.inr ⟨Or.inl rfl, hnew⟩
      · by_cases hp : p ∈ acc
        · exact Or.inl hp
        · have hacc : ∀ q ∈ acc, q.line ≠ p.line := fun q hq =>
            hnew q ((mem_insertByLine_iff hasc).mpr (Or.inl hq))
          refine Or.inr ⟨Or.inr ⟨fun hline => ?_, hfirst⟩, hacc⟩
          -- 同じ行の `s` が入っていれば、`p` はもう入らない
          refine hnew s ((mem_insertByLine_iff hasc).mpr (Or.inr ⟨rfl, ?_⟩)) hline
          rwa [hline]
    · rintro (h | ⟨rfl | ⟨hne, hfirst⟩, hnew⟩)
      · exact Or.inl (Or.inl h)
      · exact Or.inl (Or.inr ⟨rfl, hnew⟩)
      · refine Or.inr ⟨hfirst, fun q hq => ?_⟩
        rcases mem_insertByLine hq with rfl | hq
        · exact hne
        · exact hnew q hq

/-- **行の順に並べると、各行で最初に見つけた切れ目が残る。** -/
theorem mem_byLine : p ∈ byLine ps ↔ First ps p := by
  unfold byLine
  rw [mem_foldl_insertByLine_iff List.Pairwise.nil]
  simp

/-- 昇順の列は、入っている切れ目で決まる。 -/
theorem Ascending.ext (hx : Ascending xs) (hy : Ascending ys) (h : ∀ p, p ∈ xs ↔ p ∈ ys) :
    xs = ys := by
  have nodup : ∀ {zs : List Breakpoint}, Ascending zs → zs.Nodup := fun hz =>
    hz.imp fun hlt heq => Nat.ne_of_lt hlt (congrArg Breakpoint.line heq)
  refine List.Perm.eq_of_pairwise ?_ hx hy ((List.perm_ext_iff_of_nodup (nodup hx) (nodup hy)).mpr h)
  intro a b _ _ hab hba
  omega

theorem byLine_of_ascending (h : Ascending ps) : byLine ps = ps :=
  (ascending_byLine ps).ext h fun _ => mem_byLine.trans h.first_iff

/-- 各行で最初に見つけた切れ目が同じなら、行の順に並べたものは同じである。 -/
theorem byLine_eq_of_find? (h : ∀ n, ps.find? (fun p => p.line == n)
    = qs.find? (fun p => p.line == n)) : byLine ps = byLine qs :=
  (ascending_byLine ps).ext (ascending_byLine qs) fun p => by
    rw [mem_byLine, mem_byLine, First, First, h]

/-- 行ごとの見つけた順が同じなら、行の順に並べたものは同じである。 -/
theorem byLine_congr
    (h : ∀ n, ps.filter (fun p => p.line == n) = qs.filter (fun p => p.line == n)) :
    byLine ps = byLine qs := by
  refine byLine_eq_of_find? fun n => ?_
  rw [← List.head?_filter, ← List.head?_filter, h]

/-! ## 続きを畳むこと -/

/-- 畳む段は、一つ前の切れ目だけを見る。落とした切れ目も、取り込みか公開だからである。 -/
theorem collapseFrom_cons : collapseFrom inRun (p :: ps)
    = (if p.isModuleBoundary && inRun then [] else [p]) ++ collapseFrom p.isModuleBoundary ps := by
  rw [collapseFrom]
  split
  · next h =>
    obtain ⟨hp, hrun⟩ := Bool.and_eq_true_iff.mp h
    rw [hp, hrun, List.nil_append]
  · rfl

/-- 列 `ps` を見終えたときに、最後に見た切れ目が取り込みか公開だったか。 -/
def runAfter (inRun : Bool) (ps : List Breakpoint) : Bool :=
  (ps.getLast?.map isModuleBoundary).getD inRun

theorem runAfter_cons : runAfter inRun (p :: ps) = runAfter p.isModuleBoundary ps := by
  unfold runAfter
  rw [List.getLast?_cons, Option.map_some, Option.getD_some]
  cases ps.getLast? <;> rfl

/-- つないだ列を畳むことは、前を畳み、その終わりの続きとして後ろを畳むことである。 -/
theorem collapseFrom_append : collapseFrom inRun (xs ++ ys)
    = collapseFrom inRun xs ++ collapseFrom (runAfter inRun xs) ys := by
  induction xs generalizing inRun with
  | nil => rfl
  | cons p xs ih =>
    rw [List.cons_append, collapseFrom_cons, ih, collapseFrom_cons, runAfter_cons,
      List.append_assoc]

theorem mem_collapseFrom (hasc : Ascending (xs ++ p :: ys)) :
    p ∈ collapseFrom inRun (xs ++ p :: ys)
      ↔ ¬(p.isModuleBoundary = true ∧ runAfter inRun xs = true) := by
  have hbefore : p ∉ xs := fun hp =>
    Nat.lt_irrefl _ ((List.pairwise_append.mp hasc).2.2 p hp p List.mem_cons_self)
  have hafter : p ∉ ys := fun hp => Nat.lt_irrefl _
    (List.rel_of_pairwise_cons (List.pairwise_append.mp hasc).2.1 hp)
  have hxs : p ∉ collapseFrom inRun xs := fun h => hbefore ((collapseFrom_sublist _ _).mem h)
  have hys : p ∉ collapseFrom p.isModuleBoundary ys := fun h =>
    hafter ((collapseFrom_sublist _ _).mem h)
  rw [collapseFrom_append, collapseFrom_cons, List.mem_append, List.mem_append, ← Bool.and_eq_true]
  split
  · next h => simp [hxs, hys, h]
  · next h => simp [h]

/-- 取り込みや公開の切れ目が隣り合わないこと。 -/
def Apart (p q : Breakpoint) : Prop := ¬(p.isModuleBoundary = true ∧ q.isModuleBoundary = true)

theorem head?_collapseFrom_true : ∀ ps : List Breakpoint,
    ∀ p ∈ (collapseFrom true ps).head?, p.isModuleBoundary = false
  | [] => nofun
  | q :: qs => by
    intro p hp
    rw [collapseFrom_cons] at hp
    cases hq : q.isModuleBoundary with
    | true =>
      rw [hq] at hp
      exact head?_collapseFrom_true qs p hp
    | false =>
      rw [hq] at hp
      rw [← Option.some.inj hp]
      exact hq

theorem isChain_collapseFrom : ∀ (inRun : Bool) (ps : List Breakpoint),
    (collapseFrom inRun ps).IsChain Apart
  | _, [] => List.isChain_nil
  | inRun, p :: ps => by
    rw [collapseFrom_cons]
    split
    · exact isChain_collapseFrom _ ps
    · refine List.isChain_cons.mpr ⟨fun q hq => ?_, isChain_collapseFrom _ ps⟩
      rintro ⟨hp, hqb⟩
      rw [hp] at hq
      rw [head?_collapseFrom_true ps q hq] at hqb
      cases hqb

/-- 隣り合うものがなければ、畳んでも変わらない。 -/
theorem collapseFrom_of_isChain : ∀ {inRun : Bool} {ps : List Breakpoint}, ps.IsChain Apart →
    (∀ p ∈ ps.head?, ¬(p.isModuleBoundary = true ∧ inRun = true)) → collapseFrom inRun ps = ps
  | _, [], _, _ => rfl
  | inRun, p :: ps, hchain, hhead => by
    obtain ⟨hnext, hrest⟩ := List.isChain_cons.mp hchain
    have hkeep := hhead p rfl
    rw [← Bool.and_eq_true] at hkeep
    rw [collapseFrom_cons, if_neg hkeep, List.singleton_append,
      collapseFrom_of_isChain hrest fun q hq h => hnext q hq h.symm]

/-! ## 整えること -/

/-- `q` が、`p` の前で切れ目のある最も近い行の、最初に見つけた切れ目であること。 -/
structure Precedes (ps : List Breakpoint) (q p : Breakpoint) : Prop where
  first : First ps q
  lt : q.line < p.line
  nearest : ∀ r ∈ ps, r.line < p.line → r.line ≤ q.line

/-- `p` が取り込みや公開の続きであること。 -/
def Continues (ps : List Breakpoint) (p : Breakpoint) : Prop :=
  p.isModuleBoundary = true ∧ ∃ q, Precedes ps q p ∧ q.isModuleBoundary = true

/-- 行の順に並べた列では、前の行の切れ目は前にある。 -/
theorem mem_before_of_lt (h : byLine ps = xs ++ p :: ys) (hq : First ps q)
    (hlt : q.line < p.line) : q ∈ xs := by
  have hasc := ascending_byLine ps
  have hmem := mem_byLine.mpr hq
  rw [h] at hasc hmem
  rcases List.mem_append.mp hmem with hmem | hmem
  · exact hmem
  · exfalso
    rcases List.mem_cons.mp hmem with rfl | hmem
    · exact Nat.lt_irrefl _ hlt
    · exact Nat.lt_asymm hlt
        (List.rel_of_pairwise_cons (List.pairwise_append.mp hasc).2.1 hmem)

/-- 行の順に並べた列で直前にあるものは、前の最も近い行の切れ目である。 -/
theorem precedes_iff (h : byLine ps = xs ++ p :: ys) :
    Precedes ps q p ↔ xs.getLast? = some q := by
  have hasc := ascending_byLine ps
  rw [h] at hasc
  obtain ⟨hxs, -, hcross⟩ := List.pairwise_append.mp hasc
  have hfirst : ∀ r ∈ xs, First ps r := fun r hr =>
    mem_byLine.mp (h ▸ List.mem_append_left _ hr)
  constructor
  · intro hq
    obtain ⟨before, after, rfl⟩ := List.append_of_mem (mem_before_of_lt h hq.first hq.lt)
    cases after with
    | nil => simp
    | cons r after =>
      -- `q` と `p` の間の `r` は、最も近い行に反する
      exfalso
      have hr : r ∈ before ++ q :: r :: after := by simp
      have hqr : q.line < r.line := List.rel_of_pairwise_cons (List.pairwise_append.mp hxs).2.1
        List.mem_cons_self
      have := hq.nearest r (hfirst r hr).mem (hcross r hr p List.mem_cons_self)
      omega
  · intro hlast
    obtain ⟨before, rfl⟩ := List.getLast?_eq_some_iff.mp hlast
    have hq : q ∈ before ++ [q] := by simp
    refine ⟨hfirst q hq, hcross q hq p List.mem_cons_self, fun r hr hlt => ?_⟩
    obtain ⟨s, hs, hline⟩ := exists_first hr
    rw [← hline]
    rcases List.mem_append.mp (mem_before_of_lt h hs (by omega)) with hmem | hmem
    · exact Nat.le_of_lt ((List.pairwise_append.mp hxs).2.2 s hmem q List.mem_cons_self)
    · rw [List.mem_singleton.mp hmem]

/-- **整えて残るのは、各行で最初に見つけた切れ目のうち、取り込みや公開の続きでないものである。** -/
theorem mem_normalize : p ∈ normalize ps ↔ First ps p ∧ ¬Continues ps p := by
  unfold normalize
  constructor
  · intro hp
    have hin := (collapseFrom_sublist false _).mem hp
    obtain ⟨xs, ys, h⟩ := List.append_of_mem hin
    refine ⟨mem_byLine.mp hin, ?_⟩
    rintro ⟨hpb, q, hq, hqb⟩
    have hasc := ascending_byLine ps
    rw [h] at hasc hp
    refine (mem_collapseFrom hasc).mp hp ⟨hpb, ?_⟩
    unfold runAfter
    rw [(precedes_iff h).mp hq]
    exact hqb
  · rintro ⟨hfirst, hcont⟩
    obtain ⟨xs, ys, h⟩ := List.append_of_mem (mem_byLine.mpr hfirst)
    have hasc := ascending_byLine ps
    rw [h] at hasc ⊢
    refine (mem_collapseFrom hasc).mpr ?_
    rintro ⟨hpb, hrun⟩
    unfold runAfter at hrun
    cases hlast : xs.getLast? with
    | none => rw [hlast] at hrun; cases hrun
    | some q =>
      rw [hlast] at hrun
      exact hcont ⟨hpb, q, (precedes_iff h).mpr hlast, hrun⟩

/-- **残った取り込みや公開の切れ目は隣り合わない。** -/
theorem isChain_normalize (ps : List Breakpoint) : (normalize ps).IsChain Apart :=
  isChain_collapseFrom false _

theorem normalize_idem (ps : List Breakpoint) : normalize (normalize ps) = normalize ps := by
  rw [normalize, byLine_of_ascending (ascending_normalize ps)]
  exact collapseFrom_of_isChain (isChain_normalize ps) fun _ _ h => nomatch h.2

/-- 先頭 `p` の後ろで、`p` から `q` の行まで取り込みや公開だけが続くこと。 -/
structure InRun (ps : List Breakpoint) (p q : Breakpoint) : Prop where
  first : First ps q
  lt : p.line < q.line
  boundaries : ∀ r, First ps r → p.line ≤ r.line → r.line ≤ q.line → r.isModuleBoundary = true

/-- 前の行に切れ目があれば、そのうち最も近い行のものがある。 -/
theorem exists_precedes (hp : First ps p) (hq : First ps q) (hlt : p.line < q.line) :
    ∃ r, Precedes ps r q ∧ p.line ≤ r.line := by
  obtain ⟨xs, ys, h⟩ := List.append_of_mem (mem_byLine.mpr hq)
  have hne : xs ≠ [] := List.ne_nil_of_mem (mem_before_of_lt h hp hlt)
  have hprec := (precedes_iff h).mpr (List.getLast?_eq_some_getLast hne)
  exact ⟨_, hprec, hprec.nearest p hp.mem hlt⟩

theorem InRun.continues (h : InRun ps p q) (hp : First ps p) : Continues ps q := by
  obtain ⟨r, hr, hle⟩ := exists_precedes hp h.first h.lt
  exact ⟨h.boundaries q h.first (Nat.le_of_lt h.lt) (Nat.le_refl _), r, hr,
    h.boundaries r hr.first hle (Nat.le_of_lt hr.lt)⟩

/--
**整えた切れ目は、見つけた切れ目から次のように決まる。**

行の真の昇順に並び、各行で最初に見つけたもののうち取り込みや公開の続きでないものが、ちょうど残る。
残った取り込みや公開は隣り合わず、どれだけ続いても先頭だけが残る。整え直しても変わらず、
結果は行ごとの見つけた順だけで決まる。
-/
theorem normalize_exact (ps : List Breakpoint) :
    Ascending (normalize ps)
    ∧ (∀ p, p ∈ normalize ps ↔ First ps p ∧ ¬Continues ps p)
    ∧ (normalize ps).IsChain Apart
    ∧ (∀ p, First ps p → ¬Continues ps p →
        p ∈ normalize ps ∧ ∀ q, InRun ps p q → q ∉ normalize ps)
    ∧ normalize (normalize ps) = normalize ps
    ∧ ∀ qs, (∀ n, ps.filter (fun p => p.line == n) = qs.filter (fun p => p.line == n)) →
        normalize ps = normalize qs := by
  refine ⟨ascending_normalize ps, fun p => mem_normalize, isChain_normalize ps, ?_,
    normalize_idem ps, fun qs h => congrArg (collapseFrom false) (byLine_congr h)⟩
  intro p hfirst hhead
  refine ⟨mem_normalize.mpr ⟨hfirst, hhead⟩, fun q hq hmem => ?_⟩
  exact (mem_normalize.mp hmem).2 (hq.continues hfirst)

/-- 取り込みと公開が続き、同じ行で関数と取り込みが見つかる列。 -/
def mixed : List Breakpoint :=
  [⟨4, some .function, 0⟩, ⟨2, some .import, 0⟩, ⟨1, some .import, 0⟩, ⟨4, some .import, 1⟩,
    ⟨3, some .export, 0⟩]

/-- 続きは先頭だけになり、続きの後の行では先に見つけた関数が残る。行の違う切れ目は、どの順に
見つけても同じである。 -/
theorem mixed_normalizes :
    normalize mixed = [⟨1, some .import, 0⟩, ⟨4, some .function, 0⟩]
    ∧ (⟨3, some .export, 0⟩ : Breakpoint) ∉ normalize mixed
    ∧ normalize mixed = normalize [⟨1, some .import, 0⟩, ⟨2, some .import, 0⟩,
        ⟨3, some .export, 0⟩, ⟨4, some .function, 0⟩, ⟨4, some .import, 1⟩] := by
  obtain ⟨-, -, -, hrun, -, horder⟩ := normalize_exact mixed
  have hfirst : First mixed ⟨1, some .import, 0⟩ := rfl
  have hhead : ¬Continues mixed ⟨1, some .import, 0⟩ := by
    rintro ⟨-, q, hq, -⟩
    have hlines : ∀ r ∈ mixed, 1 ≤ r.line := by decide
    exact absurd hq.lt (Nat.not_lt.mpr (hlines q hq.first.mem))
  have hinrun : InRun mixed ⟨1, some .import, 0⟩ ⟨3, some .export, 0⟩ := by
    refine ⟨rfl, by decide, fun r hr _ hle => ?_⟩
    have hlow : ∀ r ∈ mixed, r.line ≤ 3 → r.isModuleBoundary = true := by decide
    exact hlow r hr.mem hle
  refine ⟨by decide, (hrun _ hfirst hhead).2 _ hinrun, horder _ fun n => ?_⟩
  match n with
  | 0 | 1 | 2 | 3 | 4 => rfl
  | _ + 5 => rfl

end CodeSearch.Breakpoint
