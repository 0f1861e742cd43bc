import CodeSearch.Proofs.Chunking.Marking
import CodeSearch.Proofs.Chunking.Partition
import Mathlib.Data.List.Nodup

/-!
# 断片の種類は、行を治める切れ目の種類である

行を治める切れ目は、その行より後ろにない切れ目のうち最も後ろのもの、先頭より前の行では先頭の切れ目で
ある。構文木で切った断片では、どの行を治める切れ目も断片と同じ種類を持つ。二つの切れ目に治められる
断片は、まとめた変数だけである。

* `Governs.unique` — 昇順の切れ目では、行を治める切れ目は一つしかない
* `governed_ofBreakpoints` — 切れ目から作った範囲は、どれも一つの切れ目が治める
* `ruled_mergeVariables`、`ruled_splitToBudget` — まとめても切っても、種類は治める切れ目のものである
* `byTree_governed` — 構文木で切った断片の種類は、どの行を治める切れ目の種類でもある
-/

namespace CodeSearch

/-! ## 行を治める切れ目 -/

namespace Breakpoint

/-- 切れ目の列 `ps` のうち、行 `n` を治めるもの。 -/
inductive Governs (ps : List Breakpoint) (n : Nat) : Breakpoint → Prop where
  /-- 行より後ろにない切れ目のうち、最も後ろのもの。 -/
  | last {p : Breakpoint} (mem : p ∈ ps) (le : p.line ≤ n)
      (greatest : ∀ q ∈ ps, q.line ≤ n → q.line ≤ p.line) : Governs ps n p
  /-- 先頭の切れ目より前の行では、先頭の切れ目。 -/
  | ahead {p : Breakpoint} (head : ps.head? = some p) (lt : n < p.line) : Governs ps n p

variable {ps : List Breakpoint} {p q : Breakpoint} {n : Nat}

theorem Ascending.eq_of_line_eq (h : Ascending ps) (hp : p ∈ ps) (hq : q ∈ ps)
    (hline : p.line = q.line) : p = q := by
  have hnodup : (ps.map (·.line)).Nodup := List.pairwise_map.mpr (h.imp Nat.ne_of_lt)
  exact List.inj_on_of_nodup_map hnodup hp hq hline

theorem Ascending.head_le (h : Ascending ps) (hhead : ps.head? = some p) (hq : q ∈ ps) :
    p.line ≤ q.line := by
  obtain ⟨rest, rfl⟩ := List.head?_eq_some_iff.mp hhead
  rcases List.mem_cons.mp hq with rfl | hq
  · exact Nat.le_refl _
  · exact Nat.le_of_lt (List.rel_of_pairwise_cons h hq)

/-- **行を治める切れ目は一つしかない。** -/
theorem Governs.unique (hasc : Ascending ps) (hp : Governs ps n p) (hq : Governs ps n q) :
    p = q := by
  cases hp with
  | last hp hple hpmax =>
    cases hq with
    | last hq hqle hqmax =>
      exact hasc.eq_of_line_eq hp hq (Nat.le_antisymm (hqmax p hp hple) (hpmax q hq hqle))
    | ahead hq hqlt =>
      have := hasc.head_le hq hp
      omega
  | ahead hp hplt =>
    cases hq with
    | last hq hqle =>
      have := hasc.head_le hp hq
      omega
    | ahead hq => exact Option.some.inj (hp.symm.trans hq)

/-- 切れ目は、次の切れ目の前の行までを治める。先頭の切れ目は、それより前の行も治める。 -/
theorem governs_of_between {before after : List Breakpoint}
    (hasc : Ascending (before ++ p :: after)) (hfirst : before = [] ∨ p.line ≤ n)
    (hafter : ∀ q ∈ after, n < q.line) : Governs (before ++ p :: after) n p := by
  by_cases hle : p.line ≤ n
  · refine .last (by simp) hle fun q hq hqn => ?_
    rcases List.mem_append.mp hq with hq | hq
    · exact Nat.le_of_lt ((List.pairwise_append.mp hasc).2.2 q hq p List.mem_cons_self)
    · rcases List.mem_cons.mp hq with rfl | hq
      · exact Nat.le_refl _
      · have := hafter q hq
        omega
  · rcases hfirst with rfl | hle'
    · exact .ahead rfl (by omega)
    · exact absurd hle' hle

/-- ファイルの中の切れ目だけで治める切れ目は、すべての切れ目で治めるものである。 -/
theorem Governs.of_inside {count : Nat} (hasc : Ascending ps) (hone : ∀ q ∈ ps, 1 ≤ q.line)
    (hn : n ≤ count)
    (h : Governs (ps.filter fun q => 1 ≤ q.line && q.line ≤ count) n p) : Governs ps n p := by
  cases h with
  | last hp hle hmax =>
    refine .last (List.mem_filter.mp hp).1 hle fun q hq hqn => hmax q ?_ hqn
    have := hone q hq
    exact List.mem_filter.mpr ⟨hq, by simp; omega⟩
  | ahead hp hlt =>
    refine .ahead ?_ hlt
    have hpcount : p.line ≤ count := by
      have := (List.mem_filter.mp (List.mem_of_head? hp)).2
      simp only [Bool.and_eq_true, decide_eq_true_eq] at this
      exact this.2
    cases ps with
    | nil => simp at hp
    | cons q qs =>
      -- 先頭は残った先頭より後ろにないので、ファイルの中にあり、ふるいに残る
      have hqp : q.line ≤ p.line :=
        hasc.head_le rfl (List.mem_filter.mp (List.mem_of_head? hp)).1
      have hqone := hone q List.mem_cons_self
      rw [List.filter_cons_of_pos (by simp; omega)] at hp
      exact hp

end Breakpoint

/-! ## 切れ目から作った範囲 -/

open Breakpoint (Governs Ascending governs_of_between)

namespace Span

/-- 範囲のすべての行を、範囲と同じ種類の一つの切れ目が治めること。 -/
def Governed (ps : List Breakpoint) (s : Span) : Prop :=
  ∃ p ∈ ps, s.kind = p.kind ∧ ∀ n, s.first ≤ n → n ≤ s.last → Governs ps n p

theorem governed_chain {count : Nat} : ∀ {after before : List Breakpoint} {p : Breakpoint}
    {first : Nat}, Ascending (before ++ p :: after) → (before = [] ∨ p.line ≤ first) →
    ∀ s ∈ chain count first p.kind after, s.Governed (before ++ p :: after)
  | [], before, p, first, hasc, hfirst, s, hs => by
    rw [chain, List.mem_singleton] at hs
    subst hs
    refine ⟨p, by simp, rfl, fun n hn _ => governs_of_between hasc ?_ (by simp)⟩
    exact hfirst.imp_right fun h => Nat.le_trans h hn
  | q :: after, before, p, first, hasc, hfirst, s, hs => by
    have htail := (List.pairwise_append.mp hasc).2.1
    have hpq : p.line < q.line := List.rel_of_pairwise_cons htail List.mem_cons_self
    rcases List.mem_cons.mp hs with rfl | hs
    · refine ⟨p, by simp, rfl, fun n hn hnq => governs_of_between hasc ?_ ?_⟩
      · exact hfirst.imp_right fun h => Nat.le_trans h hn
      · intro r hr
        have hqr : q.line ≤ r.line :=
          Breakpoint.Ascending.head_le (List.Pairwise.of_cons htail) rfl hr
        have hnq : n ≤ q.line - 1 := hnq
        omega
    · -- `p` を済んだほうへ移すと、残りは `q` から始まる同じ形になる
      rw [List.append_cons] at hasc ⊢
      exact governed_chain hasc (Or.inr (Nat.le_refl _)) s hs

/-- **切れ目から作った範囲は、どれも一つの切れ目が治める。** -/
theorem governed_ofBreakpoints {ps : List Breakpoint} {count : Nat} (hasc : Ascending ps)
    (hone : ∀ p ∈ ps, 1 ≤ p.line) (hinside : ∃ p ∈ ps, p.line ≤ count) :
    ∀ s ∈ ofBreakpoints ps count, s.Governed ps := by
  intro s hs
  have hlast : s.last ≤ count := by
    exact ((tiles_ofBreakpoints hasc count).bounds s.ends (List.mem_map_of_mem hs)).2.2
  have hinsideAsc := hasc.sublist (List.filter_sublist (p := fun p : Breakpoint =>
    1 ≤ p.line && p.line ≤ count))
  unfold ofBreakpoints at hs
  split at hs
  · simp at hs
  · split at hs
    · next hnone =>
      obtain ⟨p, hp, hle⟩ := hinside
      have := hone p hp
      exact absurd (List.filter_eq_nil_iff.mp hnone p hp) (by simp; omega)
    · next p after heq =>
      rw [heq] at hinsideAsc
      obtain ⟨q, hq, hkind, hgov⟩ :=
        @governed_chain count after [] p 1 hinsideAsc (Or.inl rfl) s hs
      rw [List.nil_append, ← heq] at hq hgov
      exact ⟨q, (List.mem_filter.mp hq).1, hkind, fun n hn hnl =>
        (hgov n hn hnl).of_inside hasc hone (Nat.le_trans hnl hlast)⟩

end Span

/-! ## まとめることと切ること -/

namespace TypedSpan

/-- 範囲のどの行を治める切れ目も範囲と同じ種類で、変数の範囲のほかは、すべての行を一つの切れ目が
治めること。 -/
structure Ruled (ps : List Breakpoint) (s : TypedSpan) : Prop where
  kind_eq : ∀ n, s.first ≤ n → n ≤ s.last → ∃ p, Governs ps n p ∧ p.kind = some s.kind
  single : s.kind ≠ .variable → ∃ p, ∀ n, s.first ≤ n → n ≤ s.last → Governs ps n p

variable {ps : List Breakpoint} {s t : TypedSpan}

theorem Ruled.narrow (h : s.Ruled ps) (hfirst : s.first ≤ t.first) (hlast : t.last ≤ s.last)
    (hkind : t.kind = s.kind) : t.Ruled ps where
  kind_eq := by
    intro n hn hnl
    rw [hkind]
    exact h.kind_eq n (Nat.le_trans hfirst hn) (Nat.le_trans hnl hlast)
  single := by
    intro hne
    obtain ⟨p, hp⟩ := h.single (hkind ▸ hne)
    exact ⟨p, fun n hn hnl => hp n (Nat.le_trans hfirst hn) (Nat.le_trans hnl hlast)⟩

/-- 隣り合う変数の範囲は、一つにしてよい。 -/
theorem Ruled.join (hs : s.Ruled ps) (ht : t.Ruled ps) (hsv : s.kind = .variable)
    (htv : t.kind = .variable) (hnext : t.first = s.last + 1) :
    (s.fuse t).Ruled ps where
  kind_eq := by
    intro n hn hnl
    by_cases hin : n ≤ s.last
    · exact hs.kind_eq n hn hin
    · obtain ⟨p, hp, hk⟩ := ht.kind_eq n (by omega) hnl
      exact ⟨p, hp, by rw [hk, fuse_kind, htv, hsv]⟩
  single := fun hne => absurd hsv hne

theorem ruled_mergeFrom (ls : SourceLines) {last : Nat} : ∀ {rest : List TypedSpan}
    {s : TypedSpan} {first : Nat}, Tiles first last ((s :: rest).map ends) →
    (∀ t ∈ s :: rest, t.Ruled ps) → ∀ t ∈ mergeFrom ls s rest, t.Ruled ps
  | [], _, _, _, h, _, ht => h _ ht
  | u :: rest, s, first, htiles, h, t, ht => by
    obtain ⟨hsr, hafter⟩ := List.forall_mem_cons.mp h
    cases hmerge : merges ls s u with
    | true =>
      obtain ⟨hsv, huv⟩ := kinds_of_merges hmerge
      obtain ⟨hur, hrest⟩ := List.forall_mem_cons.mp hafter
      have hnext : u.first = s.last + 1 := htiles.2.2.1
      rw [mergeFrom_cons_of_merges hmerge] at ht
      exact ruled_mergeFrom ls (@tiles_fuse s u [] rest first last htiles)
        (List.forall_mem_cons.mpr ⟨hsr.join hur hsv huv hnext, hrest⟩) t ht
    | false =>
      rw [mergeFrom_cons_of_not_merges hmerge] at ht
      rcases List.mem_cons.mp ht with rfl | ht
      · exact hsr
      · exact ruled_mergeFrom ls htiles.2.2 hafter t ht

/-- **変数の範囲をまとめても、種類は治める切れ目のものである。** -/
theorem ruled_mergeVariables (ls : SourceLines) {first last : Nat} {ss : List TypedSpan}
    (htiles : Tiles first last (ss.map ends)) (h : ∀ s ∈ ss, s.Ruled ps) :
    ∀ s ∈ mergeVariables ls ss, s.Ruled ps := by
  cases ss with
  | nil => exact nofun
  | cons s rest => exact ruled_mergeFrom ls htiles h

/-- **予算に合わせて切っても、種類は治める切れ目のものである。** -/
theorem ruled_splitToBudget (ls : SourceLines) (budget : Nat) (hle : s.first ≤ s.last)
    (h : s.Ruled ps) : ∀ t ∈ splitToBudget ls budget s, t.Ruled ps := by
  intro t ht
  obtain ⟨hfirst, -, hlast⟩ :=
    (tiles_splitToBudget ls budget s hle).bounds t.ends (List.mem_map_of_mem ht)
  exact h.narrow hfirst hlast (kind_of_mem_splitToBudget ht)

/-- まとめて切った範囲の種類は、治める切れ目のものである。 -/
theorem ruled_pieces (ls : SourceLines) (budget : Nat) {first last : Nat} {ss : List TypedSpan}
    (htiles : Tiles first last (ss.map ends)) (h : ∀ s ∈ ss, s.Ruled ps) :
    ∀ t ∈ (mergeVariables ls ss).flatMap (splitToBudget ls budget), t.Ruled ps := by
  intro t ht
  obtain ⟨s, hs, hts⟩ := List.mem_flatMap.mp ht
  have hle : s.first ≤ s.last :=
    ((tiles_mergeVariables ls htiles).bounds s.ends (List.mem_map_of_mem hs)).2.1
  exact ruled_splitToBudget ls budget hle (ruled_mergeVariables ls htiles h s hs) t hts

end TypedSpan

/-! ## 断片 -/

/-- 断片の種類が、どの行を治める切れ目の種類でもあること。 -/
structure Chunk.Governed (ps : List Breakpoint) (c : Chunk) : Prop where
  exists_governs : ∀ n, c.firstLine ≤ n → n ≤ c.lastLine → ∃ p, Governs ps n p
  kind_eq : ∀ n p, c.firstLine ≤ n → n ≤ c.lastLine → Governs ps n p → p.kind = some c.kind
  /-- 二つの切れ目に治められるのは、変数の断片だけである。 -/
  variable_of_ne : ∀ m n p q, c.firstLine ≤ m → m ≤ c.lastLine → c.firstLine ≤ n →
    n ≤ c.lastLine → Governs ps m p → Governs ps n q → p ≠ q → c.kind = .variable

/-- 範囲に番号を付けただけの断片は、範囲の種類を持つ。 -/
theorem TypedSpan.Ruled.chunk {ps : List Breakpoint} {s : TypedSpan} (hasc : Ascending ps)
    (h : s.Ruled ps) (path : String) (language : Language) (ls : SourceLines) (i : Nat) :
    (s.toChunk path language ls i).Governed ps where
  exists_governs := by
    intro n hn hnl
    obtain ⟨p, hp, -⟩ := h.kind_eq n hn hnl
    exact ⟨p, hp⟩
  kind_eq := by
    intro n p hn hnl hp
    obtain ⟨q, hq, hk⟩ := h.kind_eq n hn hnl
    rw [hp.unique hasc hq]
    exact hk
  variable_of_ne := by
    intro m n p q hm hml hn hnl hp hq hne
    refine Classical.byContradiction fun hkind => ?_
    obtain ⟨r, hr⟩ := h.single hkind
    exact hne ((hp.unique hasc (hr m hm hml)).trans ((hr n hn hnl).unique hasc hq))

/-- 一つの切れ目が治める範囲に、切れ目の種類を付ける。 -/
theorem Span.Governed.ruled {ps : List Breakpoint} {s : Span} (h : s.Governed ps)
    (hkinds : ∀ p ∈ ps, p.kind.isSome) (fallback : ChunkType) :
    TypedSpan.Ruled ps { first := s.first, last := s.last, kind := s.kind.getD fallback } := by
  obtain ⟨p, hp, hkind, hgov⟩ := h
  obtain ⟨k, hk⟩ := Option.isSome_iff_exists.mp (hkinds p hp)
  refine ⟨fun n hn hnl => ⟨p, hgov n hn hnl, ?_⟩, fun _ => ⟨p, hgov⟩⟩
  rw [hkind, hk, Option.getD_some]

namespace Chunking

/-- 種類のある切れ目で切った断片の種類は、どの行を治める切れ目の種類でもある。 -/
theorem governed_cut {ps : List Breakpoint} (hasc : Ascending ps)
    (hmarked : ∀ p ∈ ps, p.Marked) {text : String}
    (hinside : ∃ p ∈ ps, p.line ≤ (Text.lines text).length) (path : String) (language : Language)
    (budget : Nat) : ∀ c ∈ cut path text language ps budget, c.Governed ps := by
  intro c hc
  obtain ⟨t, ht, i, rfl⟩ := LinePartition.exists_of_mem_numbered hc
  rw [← SourceLines.count_ofText] at hinside
  refine (@TypedSpan.ruled_pieces ps _ budget 1 (SourceLines.ofText text).count _
    ?_ ?_ t (List.mem_filter.mp ht).1).chunk hasc path language _ i
  · rw [List.map_map]
    exact Span.tiles_ofBreakpoints hasc _
  · intro s hs
    obtain ⟨u, hu, rfl⟩ := List.mem_map.mp hs
    exact (Span.governed_ofBreakpoints hasc (fun p hp => (hmarked p hp).1) hinside u hu).ruled
      (fun p hp => (hmarked p hp).2) _

/-- 構文木で切った結果は、求めた切れ目で決まる。 -/
theorem byTree_eq (registry : Registry) (file : SourceFile) (budget : Nat) :
    (byTree registry file budget).1 =
      if Text.allBlank file.text then { chunks := [], parsed := true, method := .tree }
      else
        match (breakpoints registry file.trees file.language file.text).1 with
        | .error reason => { chunks := [], parsed := false, method := .tree, error := reason }
        | .ok points => { chunks := cut file.path file.text file.language points budget,
                          parsed := true, method := .tree } := by
  unfold byTree treeJob breakpoints
  split
  · rfl
  · rw [Access.run_bind]
    cases ((findBreakpoints file.trees file.language file.text).run registry).1 <;> rfl

/-- 切れ目が求まれば、構文木で切れる。空白だけの本文のほかは、求めた切れ目で切ったものである。 -/
theorem byTree_of_breakpoints {registry : Registry} {file : SourceFile} {points : List Breakpoint}
    (h : (breakpoints registry file.trees file.language file.text).1 = .ok points) (budget : Nat) :
    (byTree registry file budget).1.parsed = true
    ∧ (byTree registry file budget).1.chunks =
      if Text.allBlank file.text then []
      else cut file.path file.text file.language points budget := by
  rw [byTree_eq, h]
  split <;> exact ⟨rfl, rfl⟩

/--
**構文木で切った断片の種類は、どの行を治める切れ目の種類でもある。**

整えた切れ目のうち一つでもファイルの中にあれば、どの本文、どの構文木、どの言語、どの予算でも言える。
二つの切れ目に治められる断片は、まとめた変数だけである。
-/
theorem byTree_governed (registry : Registry) (file : SourceFile) (budget : Nat)
    (points : List Breakpoint)
    (hpoints : (breakpoints registry file.trees file.language file.text).1 = .ok points)
    (hinside : ∃ p ∈ points, p.line ≤ (Text.lines file.text).length) :
    (byTree registry file budget).1.parsed = true
    ∧ ∀ c ∈ (byTree registry file budget).1.chunks, c.Governed points := by
  obtain ⟨hparsed, hchunks⟩ := byTree_of_breakpoints hpoints budget
  refine ⟨hparsed, ?_⟩
  rw [hchunks]
  split
  · exact nofun
  · have hasc := ((ascending_findBreakpoints .any file.trees file.language file.text).run
      Answers.kept_any (r := registry) trivial).1 points hpoints
    have hmarked := ((marked_findBreakpoints .any file.trees file.language file.text).run
      Answers.kept_any (r := registry) trivial).1 points hpoints
    exact governed_cut hasc hmarked hinside _ _ _

/-- 変数の宣言が二つ続き、関数が一つあるファイル。 -/
def twoBindings : SourceFile :=
  { path := "src/a.ts"
    text := "const a = 1;\nconst b = 2;\n\nfunction f() {}\n"
    language := .typescript
    trees := fun _ _ => some
      { root := .mk "program" 0 43
          [.mk "lexical_declaration" 0 12 [] [], .mk "lexical_declaration" 13 25 [] [],
            .mk "function_declaration" 27 42 [] []] [] } }

/-- 二つの変数は一つの断片になり、二つの切れ目に治められる。 -/
theorem twoBindings_governed :
    (byTree (.ofLoader .builtin) twoBindings 1500).1.chunks.map (fun c => (c.id, c.kind))
      = [("src/a.ts:1-3", .variable), ("src/a.ts:4-4", .function)]
    ∧ ∀ c ∈ (byTree (.ofLoader .builtin) twoBindings 1500).1.chunks,
      c.Governed [⟨1, some .variable, 0⟩, ⟨2, some .variable, 0⟩, ⟨4, some .function, 0⟩] := by
  refine ⟨by decide +kernel, ?_⟩
  refine (byTree_governed (.ofLoader .builtin) twoBindings 1500 _ ?_ ?_).2
  · decide +kernel
  · decide +kernel

end Chunking

end CodeSearch
