import CodeSearch.Proofs.Chunking.Governing
import CodeSearch.Proofs.Chunking.Packing

/-!
# 先頭の断片

最初の範囲は必ず 1 行目から始まる。しかし、先頭の断片が 1 行目から始まるとは限らない。本文が空白だけの
行で始まると、予算や一定の行数で切った最初の範囲が空白だけになり、捨てられることがあるからである。

先頭の断片が 1 行目から始まるのは、最初の空白でない行が先頭の範囲にあり、そこまでの行が一つの断片に
収まるときに限る（`Chunking.opens`）。

* `reaches_iff` — 切った先頭が、ある行まで届く条件
* `opens_of_content_at_top` — 1 行目が空白だけでなければ、条件は成り立つ
* `top_cut_iff` — 整えた切れ目で切るとき、先頭の断片が 1 行目から始まる条件
* `first_chunk_at_top_iff` — どの切り方でも、条件は同じ形である
* `padded_starts_late` — 空行で始まる本文では、先頭の断片が 1 行目から始まらないことがある
-/

namespace CodeSearch

/-! ## 最初の空白でない行 -/

namespace Text

/-- 空白だけではない最初の行の番号。どの行も空白だけなら、最後の行の次の番号になる。 -/
def firstContentLine (text : String) : Nat := (lines text).findIdx (fun l => !allBlank l) + 1

theorem one_le_firstContentLine (text : String) : 1 ≤ firstContentLine text := Nat.succ_pos _

theorem firstContentLine_le {text : String} (h : HasContent text) :
    firstContentLine text ≤ (lines text).length := by
  obtain ⟨l, hl, hc⟩ := exists_line_of_hasContent h
  exact List.findIdx_lt_length_of_exists ⟨l, hl, by rw [hasContent_iff.mp hc]; rfl⟩

end Text

namespace SourceLines

variable {text : String}

theorem not_isBlankLine_firstContentLine (h : Text.HasContent text) :
    (ofText text).isBlankLine (Text.firstContentLine text) = false := by
  have hlt : (Text.lines text).findIdx (fun l => !Text.allBlank l) < (Text.lines text).length :=
    Text.firstContentLine_le h
  have hfound := @List.findIdx_getElem _ (fun l => !Text.allBlank l) _ hlt
  unfold isBlankLine
  rw [line_ofText text (Text.one_le_firstContentLine text)]
  unfold Text.firstContentLine
  rw [Nat.add_sub_cancel, List.getElem?_eq_getElem hlt, Option.getD_some]
  simpa using hfound

/-- それより前の行は、どれも空白だけである。 -/
theorem isBlankLine_of_lt {n : Nat} (hone : 1 ≤ n) (hn : n < Text.firstContentLine text) :
    (ofText text).isBlankLine n = true := by
  have hbefore : n - 1 < (Text.lines text).findIdx (fun l => !Text.allBlank l) := by
    unfold Text.firstContentLine at hn
    omega
  have hblank := List.not_of_lt_findIdx hbefore
  unfold isBlankLine
  rw [line_ofText text hone,
    List.getElem?_eq_getElem (Nat.lt_of_lt_of_le hbefore List.findIdx_le_length),
    Option.getD_some]
  simpa using hblank

/-- 1 行目からの範囲が空白だけでないのは、最初の空白でない行まで届くときである。 -/
theorem isBlank_one_iff (h : Text.HasContent text) {last : Nat} :
    (ofText text).isBlank 1 last = false ↔ Text.firstContentLine text ≤ last := by
  unfold isBlank
  rw [List.all_eq_false]
  constructor
  · rintro ⟨n, hn, hcontent⟩
    obtain ⟨hone, hlast⟩ := mem_range.mp hn
    refine Nat.le_trans (Nat.le_of_not_lt fun hlt => hcontent ?_) hlast
    exact isBlankLine_of_lt hone hlt
  · intro hle
    refine ⟨_, mem_range.mpr ⟨Text.one_le_firstContentLine text, hle⟩, ?_⟩
    rw [not_isBlankLine_firstContentLine h]
    decide

end SourceLines

/-! ## 切った先頭 -/

namespace TypedSpan

/-- **切った先頭が行 `n` まで届くのは、予算がないか、`n` が最初の行か、`n` までが予算に収まる
ときである。** -/
theorem reaches_iff {ls : SourceLines} {budget n : Nat} {s p : TypedSpan} (hone : 1 ≤ s.first)
    (hle : s.first ≤ s.last) (hlast : s.last ≤ ls.count)
    (hp : (splitToBudget ls budget s).head? = some p) (hn : s.first ≤ n) :
    n ≤ p.last ↔ n ≤ s.last
      ∧ (budget = 0 ∨ n = s.first ∨ estimateTokens (ls.slice s.first n) ≤ budget) := by
  obtain ⟨rest, hpieces⟩ := List.head?_eq_some_iff.mp hp
  have htiles := tiles_splitToBudget ls budget s hle
  rw [hpieces] at htiles
  have hfirst : p.first = s.first := htiles.1
  have hin := htiles.bounds p.ends (by simp)
  have hple : p.first ≤ p.last := hin.2.1
  have hpl : p.last ≤ s.last := hin.2.2
  rcases Nat.eq_zero_or_pos budget with rfl | hbudget
  · have hwhole : splitToBudget ls 0 s = [s] := by simp [splitToBudget]
    rw [hwhole] at hp
    rw [← Option.some.inj hp]
    simp
  constructor
  · intro hnp
    refine ⟨Nat.le_trans hnp hpl, Or.inr ?_⟩
    rcases fits_of_mem_splitToBudget hbudget (List.mem_of_head? hp) with hfits | hline
    · rw [hfirst] at hfits
      exact Or.inr (Nat.le_trans (estimateTokens_mono (ls.length_slice_mono _ hnp)) hfits)
    · exact Or.inl (by omega)
  · rintro ⟨hns, hzero | hnfirst | hfits⟩
    · omega
    · omega
    · -- 届かなければ後ろに続きがあり、次の行を加えると予算を超えるはずである
      refine Nat.le_of_not_lt fun hlt => ?_
      have hfull : p.Full ls budget := by
        refine full_of_mem_dropLast hone hle hlast hbudget p ?_
        rw [hpieces]
        cases rest with
        | nil =>
          have hend : s.last + 1 = p.last + 1 := htiles.2.2.symm
          omega
        | cons q rest => simp
      have hmono := estimateTokens_mono
        (ls.length_slice_mono s.first (show p.last + 1 ≤ n from hlt))
      unfold Full at hfull
      rw [hfirst] at hfull
      omega

end TypedSpan

namespace Chunking

open TypedSpan

/-- 先頭の断片が 1 行目から始まるための条件。最初の空白でない行が先頭の範囲にあり、そこまでの行が
一つの断片に収まることを言う。 -/
def opens (text : String) (language : Language) (points : List Breakpoint) (budget : Nat) : Bool :=
  let n := Text.firstContentLine text
  (mergedSpans text language points).head?.any (fun s => n ≤ s.last)
    && (budget = 0 || n = 1 || estimateTokens (Text.between text 1 n) ≤ budget)

section Top

variable {points : List Breakpoint} (hasc : Breakpoint.Ascending points) (text : String)
  (language : Language) (budget : Nat)

include hasc

/-- 切った先頭は、1 行目から始まる先頭の範囲を切った先頭である。 -/
theorem exists_top (hcount : 1 ≤ (SourceLines.ofText text).count) :
    ∃ g p rest, (mergedSpans text language points).head? = some g
      ∧ (g.first = 1 ∧ 1 ≤ g.last ∧ g.last ≤ (SourceLines.ofText text).count)
      ∧ (splitToBudget (SourceLines.ofText text) budget g).head? = some p
      ∧ cutSpans text language points budget = p :: rest := by
  have hmerged := tiles_mergedSpans hasc text language
  unfold cutSpans
  cases hsplit : mergedSpans text language points with
  | nil =>
    rw [hsplit] at hmerged
    have : 1 = (SourceLines.ofText text).count + 1 := hmerged
    omega
  | cons g gs =>
    rw [hsplit] at hmerged
    have hfirst : g.first = 1 := hmerged.1
    have hin := hmerged.bounds g.ends (by simp)
    have htiles := tiles_splitToBudget (SourceLines.ofText text) budget g hin.2.1
    cases hp : splitToBudget (SourceLines.ofText text) budget g with
    | nil =>
      rw [hp] at htiles
      have hempty : g.first = g.last + 1 := htiles
      have : g.first ≤ g.last := hin.2.1
      omega
    | cons p ps =>
      refine ⟨g, p, ps ++ gs.flatMap (splitToBudget (SourceLines.ofText text) budget), rfl,
        ⟨hfirst, hmerged.2.1, hin.2.2⟩, by rw [hp]; rfl, ?_⟩
      rw [List.flatMap_cons, hp, List.cons_append]

/-- 1 行目が空白だけでなければ、条件はいつも成り立つ。 -/
theorem opens_of_content_at_top (hcontent : Text.HasContent text)
    (htop : Text.firstContentLine text = 1) : opens text language points budget = true := by
  have hin := Text.firstContentLine_le hcontent
  rw [← SourceLines.count_ofText] at hin
  obtain ⟨g, -, -, hg, ⟨-, hglast, -⟩, -⟩ := exists_top hasc text language budget (by omega)
  unfold opens
  rw [htop, hg]
  simpa using hglast

omit hasc in
/-- 空白だけの範囲を除いた先頭が 1 行目から始まるのは、覆いの先頭が空白だけでないときである。 -/
theorem top_filter_iff {ls : SourceLines} {last : Nat} {p : TypedSpan} {rest : List TypedSpan}
    (h : Tiles 1 last ((p :: rest).map ends)) :
    ((p :: rest).filter fun s => !ls.isBlank s.first s.last).head?.map (·.first) = some 1
      ↔ ls.isBlank p.first p.last = false := by
  cases hblank : ls.isBlank p.first p.last with
  | false =>
    rw [List.filter_cons_of_pos (by rw [hblank]; rfl)]
    have hfirst : p.first = 1 := h.1
    simp [hfirst]
  | true =>
    rw [List.filter_cons_of_neg (by rw [hblank]; decide)]
    refine ⟨fun htop => ?_, nofun⟩
    exfalso
    obtain ⟨q, hq, hone⟩ := Option.map_eq_some_iff.mp htop
    have hmem := (List.mem_filter.mp (List.mem_of_head? hq)).1
    have hlate : p.last + 1 ≤ q.first := (h.2.2.bounds q.ends (List.mem_map_of_mem hmem)).1
    have : 1 ≤ p.last := h.2.1
    omega

/-- **整えた切れ目で切るとき、先頭の断片が 1 行目から始まるのは `opens` のときである。** -/
theorem top_cut_iff (path : String) (hcontent : Text.HasContent text) :
    (cut path text language points budget).head?.map (·.firstLine) = some 1
      ↔ opens text language points budget = true := by
  have hone := Text.one_le_firstContentLine text
  have hin := Text.firstContentLine_le hcontent
  rw [← SourceLines.count_ofText] at hin
  obtain ⟨g, p, rest, hg, ⟨hgfirst, hgle, hglast⟩, hp, hspans⟩ :=
    exists_top hasc text language budget (by omega)
  have htiles := tiles_cutSpans hasc text language budget
  rw [hspans] at htiles
  have hpfirst : p.first = 1 := htiles.1
  -- 断片は範囲に番号を付けただけなので、先頭の断片の始まりは、残った先頭の範囲の始まりである
  have hhead : (cut path text language points budget).head?.map (·.firstLine)
      = ((p :: rest).filter fun s =>
          !(SourceLines.ofText text).isBlank s.first s.last).head?.map (·.first) := by
    rw [cut_eq, hspans, List.head?_mapIdx, Option.map_map]
    rfl
  have hreaches := @reaches_iff (SourceLines.ofText text) budget (Text.firstContentLine text) g p
    (by omega) (by omega) hglast hp (by omega)
  rw [hhead, top_filter_iff htiles, hpfirst, SourceLines.isBlank_one_iff hcontent, hreaches,
    hgfirst, SourceLines.slice_ofText text _ (Nat.le_refl 1)]
  unfold opens
  rw [hg]
  simp [or_assoc]

end Top

/-! ## 三つの切り方 -/

/-- ファイルを切るのに使う、整えた切れ目。構文木から求まらなければ、行頭の宣言の切れ目である。 -/
def usedPoints (limits : ChunkLimits) (registry : Registry) (file : SourceFile) :
    List Breakpoint :=
  match select registry file.language,
    (breakpoints registry file.trees file.language file.text).1 with
  | .tree, .ok points => points
  | _, _ => lineBreakpoints limits.window (SourceLines.ofText file.text)

theorem byLine_chunks (window : Nat) {file : SourceFile} (budget : Nat)
    (hcontent : Text.HasContent file.text) : (byLine window file budget).chunks
      = cut file.path file.text file.language
        (lineBreakpoints window (SourceLines.ofText file.text)) budget := by
  unfold byLine
  rw [Text.hasContent_iff.mp hcontent, if_neg (by decide)]
  rfl

/-- 構文木を選んで切れたときは構文木で、ほかは行頭の宣言で切った断片になる。 -/
theorem chunk_chunks_eq (limits : ChunkLimits) (registry : Registry) (file : SourceFile) :
    (chunk limits registry file).1.chunks =
      if select registry file.language = .tree ∧ (byTree registry file limits.budget).1.parsed
      then (byTree registry file limits.budget).1.chunks
      else (byLine limits.window file limits.budget).chunks := by
  unfold chunk job select
  rw [Access.run_bind, show (Access.askSupports file.language).run registry
    = (registry.supports file.language, registry) from rfl]
  cases preferred (registry.supports file.language) with
  | line => rfl
  | tree =>
    have htree : (treeJob file limits.budget).run registry
        = byTree registry file limits.budget := rfl
    simp only [true_and]
    rw [Access.run_bind, htree]
    cases (byTree registry file limits.budget).1.parsed <;> rfl

/-- 切り方を選んで切った断片は、使う切れ目で切ったものである。 -/
theorem chunk_eq_cut (limits : ChunkLimits) (registry : Registry) {file : SourceFile}
    (hcontent : Text.HasContent file.text) : (chunk limits registry file).1.chunks
      = cut file.path file.text file.language (usedPoints limits registry file)
        limits.budget := by
  have hblank : ¬Text.allBlank file.text = true := by rw [Text.hasContent_iff.mp hcontent]; decide
  rw [chunk_chunks_eq, byLine_chunks limits.window limits.budget hcontent, byTree_eq,
    if_neg hblank]
  unfold usedPoints
  cases select registry file.language with
  | line => simp
  | tree => cases (breakpoints registry file.trees file.language file.text).1 <;> simp

theorem ascending_usedPoints (limits : ChunkLimits) (registry : Registry) (file : SourceFile) :
    Breakpoint.Ascending (usedPoints limits registry file) := by
  unfold usedPoints
  split
  · next hfound => exact ascending_breakpoints hfound
  · exact Breakpoint.ascending_normalize _

/--
**先頭の断片が 1 行目から始まるのは、`opens` のときに限る。**

空白でない文字のあるどの本文でも、構文木で切れたとき、行頭の宣言で切ったとき、切り方を選んで切ったときの
三つとも、使った切れ目について同じ条件になる。
-/
theorem first_chunk_at_top_iff (limits : ChunkLimits) (registry : Registry) (file : SourceFile)
    (budget window : Nat) (hcontent : Text.HasContent file.text) :
    ((byTree registry file budget).1.parsed = true →
      ∃ points, (breakpoints registry file.trees file.language file.text).1 = .ok points
        ∧ ((byTree registry file budget).1.chunks.head?.map (·.firstLine) = some 1
          ↔ opens file.text file.language points budget = true))
    ∧ ((byLine window file budget).chunks.head?.map (·.firstLine) = some 1
        ↔ opens file.text file.language
          (lineBreakpoints window (SourceLines.ofText file.text)) budget = true)
    ∧ ((chunk limits registry file).1.chunks.head?.map (·.firstLine) = some 1
        ↔ opens file.text file.language (usedPoints limits registry file)
          limits.budget = true) := by
  have hblank : ¬Text.allBlank file.text = true := by rw [Text.hasContent_iff.mp hcontent]; decide
  refine ⟨fun hparsed => ?_, ?_, ?_⟩
  · cases hfound : (breakpoints registry file.trees file.language file.text).1 with
    | error reason =>
      rw [byTree_eq, if_neg hblank, hfound] at hparsed
      cases hparsed
    | ok points =>
      refine ⟨points, rfl, ?_⟩
      rw [(byTree_of_breakpoints hfound budget).2, if_neg hblank]
      exact top_cut_iff (ascending_breakpoints hfound) _ _ _ _ hcontent
  · rw [byLine_chunks window budget hcontent]
    exact top_cut_iff (Breakpoint.ascending_normalize _) _ _ _ _ hcontent
  · rw [chunk_eq_cut limits registry hcontent]
    exact top_cut_iff (ascending_usedPoints limits registry file) _ _ _ _ hcontent

/-- 空行が二つ続いてから関数が始まるファイル。 -/
def padded : SourceFile :=
  { path := "src/a.rs"
    text := "\n\nfn f() {}\n"
    language := .rust
    trees := fun _ _ => some
      { root := .mk "source_file" 2 12 [.mk "function_item" 2 11 [] []] [] } }

theorem padded_hasContent : Text.HasContent padded.text := Text.hasContent_iff.mpr (by decide)

/-- 予算に収まるなら、空行は先頭の断片に含まれる。 -/
theorem padded_starts_at_top :
    Text.HasContent padded.text
    ∧ (byTree (.ofLoader .builtin) padded 1500).1.parsed = true
    ∧ (byTree (.ofLoader .builtin) padded 1500).1.chunks.head?.map (·.firstLine) = some 1
    ∧ (chunk {} (.ofLoader .builtin) padded).1.chunks.head?.map (·.firstLine) = some 1 := by
  obtain ⟨htree, -, hchunk⟩ :=
    first_chunk_at_top_iff {} (.ofLoader .builtin) padded 1500 60 padded_hasContent
  have hparsed : (byTree (.ofLoader .builtin) padded 1500).1.parsed = true := by decide +kernel
  obtain ⟨points, hpoints, hiff⟩ := htree hparsed
  have hone : points = [⟨3, some .function, 0⟩] := by
    have hfound : (breakpoints (.ofLoader .builtin) padded.trees padded.language padded.text).1
        = .ok [⟨3, some .function, 0⟩] := by decide +kernel
    exact Except.ok.inj (hpoints.symm.trans hfound)
  refine ⟨padded_hasContent, hparsed, hiff.mpr ?_, hchunk.mpr (by decide +kernel)⟩
  rw [hone]
  decide +kernel

/-- 予算に収まらなければ空行だけの範囲は捨てられ、先頭の断片は 1 行目から始まらない。
一定の行数で切るときも同じである。 -/
theorem padded_starts_late :
    Text.HasContent padded.text
    ∧ (byTree (.ofLoader .builtin) padded 2).1.parsed = true
    ∧ (byTree (.ofLoader .builtin) padded 2).1.chunks.head?.map (·.firstLine) = some 3
    ∧ (byLine 60 padded 2).chunks.head?.map (·.firstLine) = some 3
    ∧ (chunk { budget := 2 } (.ofLoader .builtin) padded).1.chunks.head?.map (·.firstLine)
      = some 3
    ∧ (byLine 2 { path := "notes.txt", text := "\n\nx\n", language := .unknown }
        1500).chunks.head?.map (·.firstLine) = some 3 := by
  refine ⟨padded_hasContent, ?_, ?_, ?_, ?_, ?_⟩ <;> decide +kernel

end Chunking

end CodeSearch
