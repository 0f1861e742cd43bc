import CodeSearch.Chunking

/-!
# 行の範囲は隙間なく並ぶ

切れ目から作った範囲は、1 行目から最後の行までを重なりも隙間もなく覆う。
変数の範囲をまとめても、予算に合わせて切っても、覆い方は崩れない。

* `ascending_normalize` — 整えた切れ目は行の真の昇順に並ぶ
* `tiles_ofBreakpoints` — 切れ目から作った範囲の列は全部の行を覆う
* `tiles_mergeVariables` — 変数の範囲をまとめても、覆う行は同じである
* `tiles_splitToBudget` — 一つの範囲を切ったものは、その範囲を覆う
-/

namespace CodeSearch

/-! ## 切れ目の順 -/

namespace Breakpoint

/-- 切れ目が行の真の昇順に並ぶこと。 -/
def Ascending (ps : List Breakpoint) : Prop := ps.Pairwise fun p q => p.line < q.line

theorem mem_insertByLine {p x : Breakpoint} : ∀ {qs : List Breakpoint},
    x ∈ insertByLine p qs → x = p ∨ x ∈ qs
  | [], h => by simpa [insertByLine] using h
  | q :: qs, h => by
    unfold insertByLine at h
    split at h
    · exact List.mem_cons.mp h
    · split at h
      · exact Or.inr h
      · rcases List.mem_cons.mp h with rfl | h
        · exact Or.inr List.mem_cons_self
        · rcases mem_insertByLine h with h | h
          · exact Or.inl h
          · exact Or.inr (List.mem_cons_of_mem _ h)

/-- 昇順の列に入れても昇順である。 -/
theorem Ascending.insertByLine {p : Breakpoint} : ∀ {qs : List Breakpoint},
    Ascending qs → Ascending (insertByLine p qs)
  | [], _ => List.pairwise_singleton _ p
  | q :: qs, h => by
    have hq : ∀ x ∈ qs, q.line < x.line := fun x hx => List.rel_of_pairwise_cons h hx
    unfold Breakpoint.insertByLine
    split
    · next hlt =>
      refine List.pairwise_cons.mpr ⟨?_, h⟩
      intro x hx
      rcases List.mem_cons.mp hx with rfl | hx
      · exact hlt
      · exact Nat.lt_trans hlt (hq x hx)
    · split
      · exact h
      · refine List.pairwise_cons.mpr ⟨?_, Ascending.insertByLine (List.Pairwise.of_cons h)⟩
        intro x hx
        rcases mem_insertByLine hx with rfl | hx
        · omega
        · exact hq x hx

theorem ascending_foldl_insertByLine (ps : List Breakpoint) : ∀ {acc : List Breakpoint},
    Ascending acc → Ascending (ps.foldl (fun acc p => insertByLine p acc) acc) := by
  induction ps with
  | nil => exact fun h => h
  | cons p ps ih => exact fun h => ih h.insertByLine

theorem ascending_byLine (ps : List Breakpoint) : Ascending (byLine ps) :=
  ascending_foldl_insertByLine ps List.Pairwise.nil

/-- 続きを畳むと、列の一部が残る。 -/
theorem collapseFrom_sublist : ∀ (inRun : Bool) (ps : List Breakpoint),
    (collapseFrom inRun ps).Sublist ps
  | _, [] => List.Sublist.slnil
  | inRun, p :: ps => by
    unfold collapseFrom
    split
    · exact (collapseFrom_sublist _ ps).cons p
    · exact (collapseFrom_sublist _ ps).cons_cons p

/-- **整えた切れ目は行の真の昇順に並ぶ。** -/
theorem ascending_normalize (ps : List Breakpoint) : Ascending (normalize ps) :=
  (ascending_byLine ps).sublist (collapseFrom_sublist false _)

end Breakpoint

/-! ## 覆うこと -/

/-- 行の範囲の列が、`first` から `last` までを前から順に、重なりも隙間もなく覆うこと。 -/
def Tiles (first last : Nat) : List (Nat × Nat) → Prop
  | [] => first = last + 1
  | r :: rs => r.1 = first ∧ first ≤ r.2 ∧ Tiles (r.2 + 1) last rs

namespace Tiles

/-- 覆う範囲は逆さにならない。 -/
theorem le : ∀ {first last : Nat} {rs : List (Nat × Nat)}, Tiles first last rs → first ≤ last + 1
  | _, _, [], h => Nat.le_of_eq h
  | _, _, _ :: _, ⟨_, hle, h⟩ => by
    have := h.le
    omega

/-- 続く二つの覆いをつなぐ。 -/
theorem append {mid last : Nat} {ss : List (Nat × Nat)} : ∀ {first : Nat} {rs : List (Nat × Nat)},
    Tiles first mid rs → Tiles (mid + 1) last ss → Tiles first last (rs ++ ss)
  | _, [], h, hs => by
    rw [List.nil_append, show _ = mid + 1 from h]
    exact hs
  | _, _ :: _, ⟨hr, hle, h⟩, hs => ⟨hr, hle, h.append hs⟩

/-- 覆いに使う範囲は、どれも覆われる範囲に収まる。 -/
theorem bounds : ∀ {first last : Nat} {rs : List (Nat × Nat)}, Tiles first last rs →
    ∀ r ∈ rs, first ≤ r.1 ∧ r.1 ≤ r.2 ∧ r.2 ≤ last
  | _, _, s :: ss, ⟨hr, hle, h⟩, r, hm => by
    rcases List.mem_cons.mp hm with rfl | hm
    · have := h.le
      omega
    · have := h.bounds r hm
      omega

/-- 覆いに使う範囲は、前のものが終わってから次のものが始まる。 -/
theorem pairwise : ∀ {first last : Nat} {rs : List (Nat × Nat)}, Tiles first last rs →
    rs.Pairwise fun r s => r.2 < s.1
  | _, _, [], _ => List.Pairwise.nil
  | _, _, _ :: _, ⟨_, _, h⟩ => by
    refine List.pairwise_cons.mpr ⟨?_, h.pairwise⟩
    intro s hs
    have := (h.bounds s hs).1
    omega

/-- 覆われる行は、どれかの範囲に入る。 -/
theorem exists_mem {n : Nat} : ∀ {first last : Nat} {rs : List (Nat × Nat)}, Tiles first last rs →
    first ≤ n → n ≤ last → ∃ r ∈ rs, r.1 ≤ n ∧ n ≤ r.2
  | _, _, [], h, hf, hl => by
    have : _ = _ + 1 := h
    omega
  | _, _, r :: rs, ⟨hr, hle, h⟩, hf, hl => by
    by_cases hn : n ≤ r.2
    · exact ⟨r, List.mem_cons_self, by omega, hn⟩
    · obtain ⟨s, hs, hin⟩ := h.exists_mem (n := n) (by omega) hl
      exact ⟨s, List.mem_cons_of_mem r hs, hin⟩

/-- 覆いは、使った範囲の終わりで二つに分かれる。 -/
theorem split {r : Nat × Nat} {ss : List (Nat × Nat)} : ∀ {first last : Nat}
    {rs : List (Nat × Nat)}, Tiles first last (rs ++ r :: ss) →
    Tiles first r.2 (rs ++ [r]) ∧ Tiles (r.2 + 1) last ss
  | _, _, [], ⟨hr, hle, h⟩ => ⟨⟨hr, hle, rfl⟩, h⟩
  | _, _, _ :: _, ⟨hr, hle, h⟩ =>
    have ⟨hfront, hback⟩ := h.split
    ⟨⟨hr, hle, hfront⟩, hback⟩

/-- 隣り合う二つの範囲を一つにしても、覆う行は同じである。 -/
theorem fuse {r s : Nat × Nat} {ss : List (Nat × Nat)} : ∀ {first last : Nat}
    {rs : List (Nat × Nat)}, Tiles first last (rs ++ r :: s :: ss) →
    Tiles first last (rs ++ (r.1, s.2) :: ss)
  | _, _, [], ⟨hr, hle, hs, hsle, h⟩ => ⟨hr, by omega, h⟩
  | _, _, _ :: _, ⟨hr, hle, h⟩ => ⟨hr, hle, h.fuse⟩

end Tiles

/-! ## 切れ目から作った範囲 -/

namespace Span

/-- 範囲の両端の行。 -/
def ends (s : Span) : Nat × Nat := (s.first, s.last)

theorem tiles_chain {lineCount : Nat} : ∀ {points : List Breakpoint} {first : Nat}
    {kind : Option ChunkType}, Breakpoint.Ascending points → 1 ≤ first → first ≤ lineCount →
    (∀ p ∈ points, first < p.line ∧ p.line ≤ lineCount) →
    Tiles first lineCount ((chain lineCount first kind points).map ends)
  | [], _, _, _, _, hle, _ => ⟨rfl, hle, rfl⟩
  | p :: ps, first, kind, hasc, hone, _, hin => by
    obtain ⟨hlt, hle⟩ := hin p List.mem_cons_self
    have hrest : Tiles p.line lineCount ((chain lineCount p.line p.kind ps).map ends) := by
      refine tiles_chain (List.Pairwise.of_cons hasc) (by omega) hle ?_
      intro q hq
      exact ⟨List.rel_of_pairwise_cons hasc hq, (hin q (List.mem_cons_of_mem p hq)).2⟩
    refine ⟨rfl, ?_, ?_⟩
    · show first ≤ p.line - 1
      omega
    · show Tiles (p.line - 1 + 1) lineCount _
      rw [Nat.sub_add_cancel (by omega)]
      exact hrest

/-- **切れ目から作った範囲は、ファイルのすべての行を覆う。** -/
theorem tiles_ofBreakpoints {points : List Breakpoint} (hasc : Breakpoint.Ascending points)
    (lineCount : Nat) : Tiles 1 lineCount ((ofBreakpoints points lineCount).map ends) := by
  unfold ofBreakpoints
  split
  · next hzero => exact congrArg (· + 1) hzero.symm
  · next hpos =>
    have hinside : ∀ p ∈ points.filter (fun p => 1 ≤ p.line && p.line ≤ lineCount),
        1 ≤ p.line ∧ p.line ≤ lineCount := by
      intro p hp
      simpa using (List.mem_filter.mp hp).2
    have hsorted := hasc.sublist (List.filter_sublist (p := fun p : Breakpoint =>
      1 ≤ p.line && p.line ≤ lineCount))
    split
    · exact ⟨rfl, by show 1 ≤ lineCount; omega, rfl⟩
    · next p ps heq =>
      rw [heq] at hinside hsorted
      refine tiles_chain (List.Pairwise.of_cons hsorted) (Nat.le_refl 1) (by omega) ?_
      intro q hq
      have hp := hinside p List.mem_cons_self
      have hlt : p.line < q.line := List.rel_of_pairwise_cons hsorted hq
      exact ⟨by omega, (hinside q (List.mem_cons_of_mem p hq)).2⟩

end Span

/-! ## まとめることと切ること -/

namespace TypedSpan

/-- 範囲の両端の行。 -/
def ends (s : TypedSpan) : Nat × Nat := (s.first, s.last)

section Merge

variable {ls : SourceLines} {a b s : TypedSpan} {before after rest : List TypedSpan}

/-- 二つの範囲を一つにしたもの。前の範囲の種類を持つ。 -/
def fuse (a b : TypedSpan) : TypedSpan := { a with last := b.last }

@[simp] theorem fuse_first : (a.fuse b).first = a.first := rfl

@[simp] theorem fuse_last : (a.fuse b).last = b.last := rfl

@[simp] theorem fuse_kind : (a.fuse b).kind = a.kind := rfl

theorem kinds_of_merges (h : merges ls a b = true) : a.kind = .variable ∧ b.kind = .variable := by
  unfold merges at h
  rw [Bool.and_eq_true, Bool.and_eq_true, beq_iff_eq, beq_iff_eq] at h
  exact h.1

theorem mergeFrom_cons_of_merges (h : merges ls s a = true) :
    mergeFrom ls s (a :: rest) = mergeFrom ls (s.fuse a) rest := by
  rw [mergeFrom, if_pos h]
  rfl

theorem mergeFrom_cons_of_not_merges (h : merges ls s a = false) :
    mergeFrom ls s (a :: rest) = s :: mergeFrom ls a rest := by
  rw [mergeFrom, if_neg (by simp [h])]

/-- 隣り合う範囲は、前のものの次の行から始まる。 -/
theorem next_of_tiles {first last : Nat}
    (h : Tiles first last ((before ++ a :: b :: after).map ends)) :
    a.first ≤ a.last ∧ b.first = a.last + 1 ∧ b.first ≤ b.last := by
  have ha := h.bounds a.ends (List.mem_map_of_mem (by simp))
  rw [List.map_append, List.map_cons] at h
  obtain ⟨hb, hble, -⟩ := h.split.2
  have hnext : b.first = a.last + 1 := hb
  have : a.last + 1 ≤ b.last := hble
  exact ⟨ha.2.1, hnext, by omega⟩

theorem tiles_fuse {first last : Nat}
    (h : Tiles first last ((before ++ a :: b :: after).map ends)) :
    Tiles first last ((before ++ a.fuse b :: after).map ends) := by
  rw [List.map_append, List.map_cons] at h ⊢
  exact h.fuse

end Merge

theorem tiles_mergeFrom (ls : SourceLines) {first last : Nat} : ∀ {rest : List TypedSpan}
    {s : TypedSpan}, Tiles first last ((s :: rest).map ends) →
    Tiles first last ((mergeFrom ls s rest).map ends)
  | [], _, h => h
  | c :: rest, s, h => by
    cases hmerge : merges ls s c with
    | true =>
      rw [mergeFrom_cons_of_merges hmerge]
      exact tiles_mergeFrom ls (@tiles_fuse s c [] rest first last h)
    | false =>
      rw [mergeFrom_cons_of_not_merges hmerge]
      exact ⟨h.1, h.2.1, tiles_mergeFrom ls h.2.2⟩

/-- **変数の範囲をまとめても、覆う行は同じである。** -/
theorem tiles_mergeVariables (ls : SourceLines) {first last : Nat} {ss : List TypedSpan}
    (h : Tiles first last (ss.map ends)) : Tiles first last ((mergeVariables ls ss).map ends) := by
  cases ss with
  | nil => exact h
  | cons s rest => exact tiles_mergeFrom ls h

/-- 行 `n` まで見た時点で `first` から溜めている範囲を、残りの行 `n, …, last` で切ったもの。 -/
theorem tiles_splitLines (ls : SourceLines) (budget last : Nat) (kind : ChunkType) :
    ∀ (k n first chars : Nat), first ≤ n → first ≤ last → n + k = last + 1 →
    Tiles first last ((splitLines ls budget last kind first chars (List.range' n k)).map ends)
  | 0, _, _, _, _, hle, _ => ⟨rfl, hle, rfl⟩
  | k + 1, n, first, chars, hn, hle, hk => by
    rw [List.range'_succ]
    unfold splitLines
    simp only []
    split
    · next hcut =>
      have hlt : first < n := by
        simp only [Bool.and_eq_true, decide_eq_true_eq] at hcut
        exact hcut.1
      refine ⟨rfl, ?_, ?_⟩
      · show first ≤ n - 1
        omega
      · show Tiles (n - 1 + 1) last _
        rw [Nat.sub_add_cancel (by omega)]
        exact tiles_splitLines ls budget last kind k (n + 1) n _ (by omega) (by omega) (by omega)
    · exact tiles_splitLines ls budget last kind k (n + 1) first _ (by omega) hle (by omega)

/-- **予算に合わせて切ったものは、元の範囲を覆う。** -/
theorem tiles_splitToBudget (ls : SourceLines) (budget : Nat) (s : TypedSpan)
    (h : s.first ≤ s.last) : Tiles s.first s.last ((splitToBudget ls budget s).map ends) := by
  unfold splitToBudget
  split
  · exact ⟨rfl, h, rfl⟩
  · exact tiles_splitLines ls budget s.last s.kind _ _ _ _ (Nat.le_refl _) h (by omega)

/-- 切ったものは、元の範囲の種類を持つ。 -/
theorem kind_of_mem_splitLines {ls : SourceLines} {budget last : Nat} {kind : ChunkType}
    {t : TypedSpan} :
    ∀ {ns : List Nat} {first chars : Nat}, t ∈ splitLines ls budget last kind first chars ns →
    t.kind = kind
  | [], _, _, h => by
    rw [splitLines, List.mem_singleton] at h
    rw [h]
  | n :: ns, _, _, h => by
    unfold splitLines at h
    simp only [] at h
    split at h
    · rcases List.mem_cons.mp h with rfl | h
      · rfl
      · exact kind_of_mem_splitLines h
    · exact kind_of_mem_splitLines h

theorem kind_of_mem_splitToBudget {ls : SourceLines} {budget : Nat} {s t : TypedSpan}
    (h : t ∈ splitToBudget ls budget s) : t.kind = s.kind := by
  unfold splitToBudget at h
  split at h
  · rw [List.mem_singleton.mp h]
  · exact kind_of_mem_splitLines h

/-- 範囲をそれぞれ覆うもので置き換えても、覆う行は同じである。 -/
theorem tiles_flatMap {f : TypedSpan → List TypedSpan}
    (hf : ∀ s : TypedSpan, s.first ≤ s.last → Tiles s.first s.last ((f s).map ends)) {last : Nat} :
    ∀ {ss : List TypedSpan} {first : Nat}, Tiles first last (ss.map ends) →
    Tiles first last ((ss.flatMap f).map ends)
  | [], _, h => h
  | s :: ss, first, ⟨hs, hle, h⟩ => by
    rw [List.flatMap_cons, List.map_append]
    have hfirst : s.first = first := hs
    subst hfirst
    exact (hf s hle).append (tiles_flatMap hf h)

end TypedSpan

end CodeSearch
