import CodeSearch.Proofs.Chunking.Tiling
import CodeSearch.Proofs.Grammar.Access

/-!
# 断片は行を失わず、重ねない

どの切り方でも、断片の列はファイルの行を分ける。空白だけの行のほかは、どの行もちょうど一つの
断片に入る。断片の名前と番号と中身は、行の範囲から決まる。

構文木は何でもよい。ファイルの外を指す節や、順の乱れた節があっても同じことが言える。
-/

namespace CodeSearch

/-! ## 本文の行 -/

namespace Text

/-- `first` から `last` までの行を改行でつないだもの。行番号は 1 から数える。 -/
def between (text : String) (first last : Nat) : String :=
  "\n".intercalate (((lines text).drop (first - 1)).take (last + 1 - first))

/-- 空白でない文字があるか。 -/
def HasContent (s : String) : Prop := ∃ x ∈ s.toList, isBlank x = false

theorem hasContent_iff {s : String} : HasContent s ↔ allBlank s = false := by
  unfold HasContent allBlank
  rw [List.all_eq_false]
  simp

theorem mem_closeLine {x : Char} {cs : List Char} (h : x ∈ closeLine cs) : x ∈ cs := by
  unfold closeLine at h
  split at h
  · exact List.mem_cons_of_mem _ (List.mem_reverse.mp h)
  · exact List.mem_reverse.mp h

/-- 行の文字は、溜めた文字か残りの文字である。 -/
theorem mem_of_mem_linesFrom {l : List Char} {x : Char} (hx : x ∈ l) :
    ∀ {current cs : List Char}, l ∈ linesFrom current cs → x ∈ current ∨ x ∈ cs
  | current, [], h => by
    unfold linesFrom at h
    split at h
    · simp at h
    · rw [List.mem_singleton.mp h] at hx
      exact Or.inl (List.mem_reverse.mp hx)
  | current, c :: rest, h => by
    unfold linesFrom at h
    split at h
    · rcases List.mem_cons.mp h with rfl | h
      · exact Or.inl (mem_closeLine hx)
      · rcases mem_of_mem_linesFrom hx h with hn | hr
        · simp at hn
        · exact Or.inr (List.mem_cons_of_mem _ hr)
    · rcases mem_of_mem_linesFrom hx h with hc | hr
      · rcases List.mem_cons.mp hc with rfl | hc
        · exact Or.inr List.mem_cons_self
        · exact Or.inl hc
      · exact Or.inr (List.mem_cons_of_mem _ hr)

/-- 行の中身は本文の中身である。 -/
theorem hasContent_of_mem_lines {text l : String} (hl : l ∈ lines text) (h : HasContent l) :
    HasContent text := by
  obtain ⟨x, hx, hb⟩ := h
  obtain ⟨cs, hcs, rfl⟩ := List.mem_map.mp hl
  rw [String.toList_ofList] at hx
  rcases mem_of_mem_linesFrom hx hcs with hn | hr
  · simp at hn
  · exact ⟨x, hr, hb⟩

theorem mem_closeLine_of_not_blank {x : Char} {cs : List Char} (hb : isBlank x = false)
    (h : x ∈ cs) : x ∈ closeLine cs := by
  unfold closeLine
  split
  · next rest =>
    -- 落とす復帰は空白である
    rcases List.mem_cons.mp h with rfl | h
    · exact absurd hb (by decide)
    · exact List.mem_reverse.mpr h
  · exact List.mem_reverse.mpr h

/-- 溜めた文字か残りの文字のうち空白でないものは、どれかの行の文字である。 -/
theorem exists_mem_linesFrom {x : Char} (hb : isBlank x = false) :
    ∀ {current cs : List Char}, x ∈ current ∨ x ∈ cs → ∃ l ∈ linesFrom current cs, x ∈ l
  | current, [], h => by
    have hc : x ∈ current := h.resolve_right List.not_mem_nil
    unfold linesFrom
    rw [if_neg (by simpa using List.ne_nil_of_mem hc)]
    exact ⟨_, List.mem_singleton_self _, List.mem_reverse.mpr hc⟩
  | current, c :: rest, h => by
    unfold linesFrom
    by_cases hn : c = '\n'
    · rw [if_pos hn]
      rcases h with hc | hr
      · exact ⟨_, List.mem_cons_self, mem_closeLine_of_not_blank hb hc⟩
      · have hrest : x ∈ rest := by
          rcases List.mem_cons.mp hr with rfl | hr
          · rw [hn, isBlank_newline] at hb
            cases hb
          · exact hr
        obtain ⟨l, hl, hx⟩ := @exists_mem_linesFrom x hb [] rest (Or.inr hrest)
        exact ⟨l, List.mem_cons_of_mem _ hl, hx⟩
    · rw [if_neg hn]
      refine exists_mem_linesFrom hb ?_
      rcases h with hc | hr
      · exact Or.inl (List.mem_cons_of_mem c hc)
      · rcases List.mem_cons.mp hr with rfl | hr
        · exact Or.inl List.mem_cons_self
        · exact Or.inr hr

/-- 本文の中身は、どれかの行の中身である。 -/
theorem exists_line_of_hasContent {text : String} (h : HasContent text) :
    ∃ l ∈ lines text, HasContent l := by
  obtain ⟨x, hx, hb⟩ := h
  obtain ⟨l, hl, hxl⟩ := @exists_mem_linesFrom x hb [] text.toList (Or.inr hx)
  exact ⟨.ofList l, List.mem_map_of_mem hl, x, by rwa [String.toList_ofList], hb⟩

/-- つないだ列の文字は、つないだものの文字である。 -/
theorem hasContent_intercalate {sep : String} {l : String} (h : HasContent l) :
    ∀ {ls : List String}, l ∈ ls → HasContent (sep.intercalate ls)
  | [s], hl => by
    rw [List.mem_singleton.mp hl] at h
    rwa [String.intercalate_singleton]
  | s :: t :: ls, hl => by
    rw [String.intercalate_cons_cons]
    rcases List.mem_cons.mp hl with rfl | hl
    · obtain ⟨x, hx, hb⟩ := h
      exact ⟨x, by simp [hx], hb⟩
    · obtain ⟨x, hx, hb⟩ := hasContent_intercalate h hl
      exact ⟨x, by rw [String.toList_append]; exact List.mem_append_right _ hx, hb⟩

/-- 範囲の中の行の中身は、範囲の中身である。 -/
theorem hasContent_between {text l : String} {first last n : Nat} (hl : (lines text)[n - 1]? = some l)
    (hfirst : first ≤ n) (hlast : n ≤ last) (hone : 1 ≤ first) (h : HasContent l) :
    HasContent (between text first last) := by
  refine hasContent_intercalate h (List.mem_of_getElem? (i := n - first) ?_)
  rw [List.getElem?_take_of_lt (by omega), List.getElem?_drop,
    show first - 1 + (n - first) = n - 1 by omega]
  exact hl

end Text

namespace SourceLines

theorem count_ofText (text : String) : (ofText text).count = (Text.lines text).length := by
  simp [count, ofText]

theorem slice_ofText (text : String) {first : Nat} (last : Nat) (h : 1 ≤ first) :
    (ofText text).slice first last = Text.between text first last := by
  unfold slice ofText Text.between
  rw [Array.toList_extract, List.extract_eq_take_drop,
    show last - (first - 1) = last + 1 - first by omega]

theorem line_ofText (text : String) {n : Nat} (h : 1 ≤ n) :
    (ofText text).line n = ((Text.lines text)[n - 1]?).getD "" := by
  unfold line ofText
  rw [if_neg (by omega)]
  simp

/-- 空白だけではない行は、本文の行である。 -/
theorem exists_of_not_isBlankLine {text : String} {n : Nat} (hn : 1 ≤ n)
    (h : (ofText text).isBlankLine n = false) :
    ∃ l, (Text.lines text)[n - 1]? = some l ∧ Text.HasContent l := by
  unfold isBlankLine at h
  rw [line_ofText text hn] at h
  cases hl : (Text.lines text)[n - 1]? with
  | none =>
    rw [hl] at h
    exact absurd h (by decide)
  | some l =>
    rw [hl] at h
    exact ⟨l, rfl, Text.hasContent_iff.mpr h⟩

theorem mem_range {first last n : Nat} : n ∈ range first last ↔ first ≤ n ∧ n ≤ last := by
  unfold range
  rw [List.mem_range'_1]
  omega

/-- 空白でない文字のある行を含む範囲は、空白だけではない。 -/
theorem isBlank_eq_false {text l : String} {first last n : Nat} (hone : 1 ≤ first)
    (hl : (Text.lines text)[n - 1]? = some l) (h : Text.HasContent l) (hfirst : first ≤ n)
    (hlast : n ≤ last) : (ofText text).isBlank first last = false := by
  unfold isBlank
  rw [List.all_eq_false]
  refine ⟨n, mem_range.mpr ⟨hfirst, hlast⟩, ?_⟩
  unfold isBlankLine
  rw [line_ofText text (by omega), hl, Option.getD_some, Text.hasContent_iff.mp h]
  simp

end SourceLines

/-! ## 行を分ける -/

/-- 行 `n` を含むか。 -/
def Chunk.covers (n : Nat) (c : Chunk) : Bool := c.firstLine ≤ n && n ≤ c.lastLine

/-- 断片の列が、パスが `path` で本文が `text` のファイルの行を分けること。 -/
structure LinePartition (path text : String) (chunks : List Chunk) : Prop where
  /-- どの断片も、ファイルの中の空でない行の範囲である。 -/
  bounds : ∀ c ∈ chunks,
    1 ≤ c.firstLine ∧ c.firstLine ≤ c.lastLine ∧ c.lastLine ≤ (Text.lines text).length
  /-- 前の断片が終わってから次の断片が始まる。 -/
  ordered : chunks.Pairwise fun a b => a.lastLine < b.firstLine
  /-- 番号は 0 から順に付く。 -/
  sequence : chunks.map (·.sequence) = List.range chunks.length
  path_eq : ∀ c ∈ chunks, c.path = path
  id_eq : ∀ c ∈ chunks, c.id = chunkId path c.firstLine c.lastLine
  text_eq : ∀ c ∈ chunks, c.text = Text.between text c.firstLine c.lastLine
  /-- ベクトルはまだない。 -/
  vector_eq : ∀ c ∈ chunks, c.vector = none
  /-- どの断片にも、空白でない文字がある。 -/
  content : ∀ c ∈ chunks, Text.HasContent c.text
  /-- 空白でない文字のある行は、ちょうど一つの断片に入る。 -/
  covered : ∀ n l, 1 ≤ n → (Text.lines text)[n - 1]? = some l → Text.HasContent l →
    chunks.countP (Chunk.covers n) = 1

/-- 二つが同時に真にならない条件が、どれかで真なら、真になるのはちょうど一つである。 -/
theorem countP_eq_one {α : Type} {p : α → Bool} : ∀ {xs : List α},
    xs.Pairwise (fun a b => ¬(p a = true ∧ p b = true)) → (∃ a ∈ xs, p a = true) → xs.countP p = 1
  | [], _, h => by
    obtain ⟨a, ha, -⟩ := h
    simp at ha
  | x :: xs, hd, h => by
    obtain ⟨hx, hxs⟩ := List.pairwise_cons.mp hd
    by_cases hp : p x = true
    · rw [List.countP_cons_of_pos hp, List.countP_eq_zero.mpr fun a ha hpa => hx a ha ⟨hp, hpa⟩]
    · rw [List.countP_cons_of_neg hp]
      refine countP_eq_one hxs ?_
      obtain ⟨a, ha, hpa⟩ := h
      rcases List.mem_cons.mp ha with rfl | ha
      · exact absurd hpa hp
      · exact ⟨a, ha, hpa⟩

namespace LinePartition

/-- 本文に空白しかなければ、断片はない。 -/
theorem of_allBlank {path text : String} (h : Text.allBlank text = true) :
    LinePartition path text [] where
  bounds := by simp
  ordered := List.Pairwise.nil
  sequence := rfl
  path_eq := by simp
  id_eq := by simp
  text_eq := by simp
  vector_eq := by simp
  content := by simp
  covered := by
    intro n l _ hl hc
    have htext := Text.hasContent_of_mem_lines (List.mem_of_getElem? hl) hc
    rw [Text.hasContent_iff, h] at htext
    exact absurd htext (by decide)

/-- 断片がなければ、本文には空白しかない。 -/
theorem allBlank_of_nil {path text : String} (h : LinePartition path text []) :
    Text.allBlank text = true := by
  refine Classical.byContradiction fun hblank => ?_
  rw [Bool.not_eq_true] at hblank
  obtain ⟨l, hl, hc⟩ := Text.exists_line_of_hasContent (Text.hasContent_iff.mpr hblank)
  obtain ⟨i, hi⟩ := List.getElem?_of_mem hl
  cases h.covered (i + 1) l (by omega) hi hc

/-! ### 範囲に番号を付ける -/

section Numbered

variable {path : String} {language : Language} {ls : SourceLines} {pieces : List TypedSpan}

/-- 断片は、どれかの範囲に番号を付けたものである。 -/
theorem exists_of_mem_numbered {c : Chunk}
    (h : c ∈ pieces.mapIdx fun i s => s.toChunk path language ls i) :
    ∃ s ∈ pieces, ∃ i, c = s.toChunk path language ls i := by
  obtain ⟨i, hi, rfl⟩ := List.mem_mapIdx.mp h
  exact ⟨pieces[i], List.getElem_mem hi, i, rfl⟩

theorem ordered_numbered (h : pieces.Pairwise fun s t => s.last < t.first) :
    (pieces.mapIdx fun i s => s.toChunk path language ls i).Pairwise
      fun a b => a.lastLine < b.firstLine := by
  rw [List.pairwise_iff_getElem]
  intro i j hi hj hij
  rw [List.length_mapIdx] at hi hj
  rw [List.getElem_mapIdx, List.getElem_mapIdx]
  exact List.pairwise_iff_getElem.mp h i j hi hj hij

theorem sequence_numbered :
    (pieces.mapIdx fun i s => s.toChunk path language ls i).map (·.sequence)
      = List.range (pieces.mapIdx fun i s => s.toChunk path language ls i).length := by
  rw [List.length_mapIdx]
  refine List.ext_getElem (by simp) fun i hi _ => ?_
  simp [TypedSpan.toChunk, Chunk.ofSpan]

/-- 順に並ぶ範囲のどれかに入る行は、ちょうど一つの断片に入る。 -/
theorem countP_numbered (h : pieces.Pairwise fun s t => s.last < t.first) {n : Nat}
    (hin : ∃ s ∈ pieces, s.first ≤ n ∧ n ≤ s.last) :
    (pieces.mapIdx fun i s => s.toChunk path language ls i).countP (Chunk.covers n) = 1 := by
  refine countP_eq_one ((ordered_numbered h).imp ?_) ?_
  · intro a b hab hboth
    simp only [Chunk.covers, Bool.and_eq_true, decide_eq_true_eq] at hboth
    omega
  · obtain ⟨s, hs, hfirst, hlast⟩ := hin
    obtain ⟨i, hi, rfl⟩ := List.getElem_of_mem hs
    refine ⟨_, List.mem_mapIdx.mpr ⟨i, hi, rfl⟩, ?_⟩
    show (decide (_ ≤ n) && decide (n ≤ _)) = true
    rw [Bool.and_eq_true, decide_eq_true_eq, decide_eq_true_eq]
    exact ⟨hfirst, hlast⟩

end Numbered

/-- 順に並ぶ範囲が、空白でない文字のある行をもれなく含み、どれも空白だけでなければ、
その断片は行を分ける。 -/
theorem of_pieces {path text : String} {language : Language} {pieces : List TypedSpan}
    (hbounds : ∀ s ∈ pieces,
      1 ≤ s.first ∧ s.first ≤ s.last ∧ s.last ≤ (Text.lines text).length)
    (hordered : pieces.Pairwise fun s t => s.last < t.first)
    (hcontent : ∀ s ∈ pieces, Text.HasContent (Text.between text s.first s.last))
    (hcovered : ∀ n l, 1 ≤ n → (Text.lines text)[n - 1]? = some l → Text.HasContent l →
      ∃ s ∈ pieces, s.first ≤ n ∧ n ≤ s.last) :
    LinePartition path text
      (pieces.mapIdx fun i s => s.toChunk path language (SourceLines.ofText text) i) := by
  have hslice : ∀ s ∈ pieces,
      (SourceLines.ofText text).slice s.first s.last = Text.between text s.first s.last :=
    fun s hs => SourceLines.slice_ofText text s.last (hbounds s hs).1
  -- 断片は範囲に番号を付けただけなので、どの条件も範囲の条件に戻る
  refine ⟨?_, ordered_numbered hordered, sequence_numbered, ?_, ?_, ?_, ?_, ?_,
    fun n l hone hl hc => countP_numbered hordered (hcovered n l hone hl hc)⟩
  all_goals
    intro c hc
    obtain ⟨s, hs, i, rfl⟩ := exists_of_mem_numbered hc
  · exact hbounds s hs
  · rfl
  · rfl
  · exact hslice s hs
  · rfl
  · show Text.HasContent ((SourceLines.ofText text).slice s.first s.last)
    rw [hslice s hs]
    exact hcontent s hs

/-- すべての行を覆う範囲から、空白だけのものを除いて作った断片は、行を分ける。 -/
theorem of_tiles {path text : String} {language : Language} {pieces : List TypedSpan}
    (h : Tiles 1 (Text.lines text).length (pieces.map TypedSpan.ends)) :
    LinePartition path text
      ((pieces.filter fun s => !(SourceLines.ofText text).isBlank s.first s.last).mapIdx
        fun i s => s.toChunk path language (SourceLines.ofText text) i) := by
  have hends : ∀ s ∈ pieces, 1 ≤ s.first ∧ s.first ≤ s.last ∧ s.last ≤ (Text.lines text).length :=
    fun s hs => h.bounds s.ends (List.mem_map_of_mem hs)
  refine of_pieces ?_ ?_ ?_ ?_
  · exact fun s hs => hends s (List.mem_filter.mp hs).1
  · exact (List.pairwise_map.mp h.pairwise).sublist List.filter_sublist
  · intro s hs
    obtain ⟨hin, hkeep⟩ := List.mem_filter.mp hs
    have hone := (hends s hin).1
    have hnot : (SourceLines.ofText text).isBlank s.first s.last = false := by simpa using hkeep
    obtain ⟨n, hn, hline⟩ := List.all_eq_false.mp hnot
    obtain ⟨hfirst, hlast⟩ := SourceLines.mem_range.mp hn
    obtain ⟨l, hl, hc⟩ := SourceLines.exists_of_not_isBlankLine (n := n) (by omega)
      (by simpa using hline)
    exact Text.hasContent_between hl hfirst hlast hone hc
  · intro n l hone hl hc
    have hn : n ≤ (Text.lines text).length := by
      have := (List.getElem?_eq_some_iff.mp hl).1
      omega
    obtain ⟨r, hr, hfirst, hlast⟩ := h.exists_mem hone hn
    obtain ⟨s, hs, rfl⟩ := List.mem_map.mp hr
    have hnot : (SourceLines.ofText text).isBlank s.first s.last = false :=
      SourceLines.isBlank_eq_false (hends s hs).1 hl hc hfirst hlast
    exact ⟨s, List.mem_filter.mpr ⟨hs, by rw [hnot]; rfl⟩, hfirst, hlast⟩

end LinePartition

namespace Chunking

/-- 断片にする前の、種類を決めてまとめた範囲。 -/
def mergedSpans (text : String) (language : Language) (points : List Breakpoint) : List TypedSpan :=
  let ls := SourceLines.ofText text
  TypedSpan.mergeVariables ls ((Span.ofBreakpoints points ls.count).map fun s =>
    { first := s.first, last := s.last,
      kind := s.kind.getD (Classification.classify (ls.slice s.first s.last) language) })

/-- 断片にする前の、予算に合わせて切った範囲。 -/
def cutSpans (text : String) (language : Language) (points : List Breakpoint) (budget : Nat) :
    List TypedSpan :=
  (mergedSpans text language points).flatMap
    (TypedSpan.splitToBudget (SourceLines.ofText text) budget)

/-- 断片は、空白だけの範囲を捨てて番号を付けたものである。 -/
theorem cut_eq (path text : String) (language : Language) (points : List Breakpoint)
    (budget : Nat) : cut path text language points budget =
      ((cutSpans text language points budget).filter fun s =>
        !(SourceLines.ofText text).isBlank s.first s.last).mapIdx
          fun i s => s.toChunk path language (SourceLines.ofText text) i := rfl

section Cut

variable {points : List Breakpoint} (hasc : Breakpoint.Ascending points) (text : String)
  (language : Language) (budget : Nat)

include hasc

theorem tiles_mergedSpans : Tiles 1 (SourceLines.ofText text).count
    ((mergedSpans text language points).map TypedSpan.ends) := by
  refine TypedSpan.tiles_mergeVariables _ ?_
  rw [List.map_map]
  exact Span.tiles_ofBreakpoints hasc _

theorem tiles_cutSpans : Tiles 1 (SourceLines.ofText text).count
    ((cutSpans text language points budget).map TypedSpan.ends) :=
  TypedSpan.tiles_flatMap (TypedSpan.tiles_splitToBudget _ budget)
    (tiles_mergedSpans hasc text language)

/-- 整えた切れ目で切った断片は、行を分ける。 -/
theorem linePartition_cut (path : String) :
    LinePartition path text (cut path text language points budget) := by
  rw [cut_eq]
  refine LinePartition.of_tiles ?_
  rw [← SourceLines.count_ofText]
  exact tiles_cutSpans hasc text language budget

end Cut

/-- 構文木から求めた切れ目は、保管がどう答えても、行の真の昇順に並ぶ。 -/
theorem ascending_findBreakpoints (A : Answers) (trees : Trees) (language : Language)
    (text : String) :
    (findBreakpoints trees language text).Ensures A
      fun found => ∀ points, found = .ok points → Breakpoint.Ascending points := by
  unfold findBreakpoints
  refine (Access.Ensures.askGrammar language).bind fun grammar _ => ?_
  cases grammar with
  | none => exact .pure nofun
  | some g =>
    simp only []
    split
    · exact .pure nofun
    · split
      · exact .pure nofun
      · next tree _ =>
        refine (Access.Ensures.trivial _).bind fun points _ => ?_
        split
        · exact .pure nofun
        · refine .pure ?_
          rintro _ ⟨⟩
          exact Breakpoint.ascending_normalize points

theorem ascending_breakpoints {registry : Registry} {file : SourceFile} {points : List Breakpoint}
    (h : (breakpoints registry file.trees file.language file.text).1 = .ok points) :
    Breakpoint.Ascending points :=
  ((ascending_findBreakpoints .any file.trees file.language file.text).run
    Answers.kept_any (r := registry) trivial).1 points h

/-- 切った断片の形。空白だけの本文なら断片はなく、ほかは昇順の切れ目で切ったものである。 -/
def IsCut (file : SourceFile) (budget : Nat) (chunks : List Chunk) : Prop :=
  (Text.allBlank file.text = true ∧ chunks = [])
  ∨ ∃ points, Breakpoint.Ascending points
    ∧ chunks = cut file.path file.text file.language points budget

theorem IsCut.linePartition {file : SourceFile} {budget : Nat} {chunks : List Chunk}
    (h : IsCut file budget chunks) : LinePartition file.path file.text chunks := by
  rcases h with ⟨hblank, rfl⟩ | ⟨points, hasc, rfl⟩
  · exact LinePartition.of_allBlank hblank
  · exact linePartition_cut hasc _ _ _ _

/-- 切ったばかりの断片に、時刻はまだ付いていない。 -/
theorem IsCut.createdAt {file : SourceFile} {budget : Nat} {chunks : List Chunk}
    (h : IsCut file budget chunks) : ∀ c ∈ chunks, c.createdAt = 0 := by
  rcases h with ⟨-, rfl⟩ | ⟨points, -, rfl⟩
  · exact nofun
  · intro c hc
    obtain ⟨s, -, i, rfl⟩ := LinePartition.exists_of_mem_numbered hc
    rfl

/-- 行頭の宣言で切った断片の形。 -/
theorem isCut_byLine (window : Nat) (file : SourceFile) (budget : Nat) :
    IsCut file budget (byLine window file budget).chunks := by
  unfold byLine
  split
  · next hblank => exact Or.inl ⟨hblank, rfl⟩
  · exact Or.inr ⟨_, Breakpoint.ascending_normalize _, rfl⟩

/-- 構文木の切れ目で切る仕事の断片の形。切れたときに限る。 -/
theorem isCut_treeJob (A : Answers) (file : SourceFile) (budget : Nat) :
    (treeJob file budget).Ensures A fun o => o.parsed = true → IsCut file budget o.chunks := by
  unfold treeJob
  split
  · next hblank => exact .pure fun _ => Or.inl ⟨hblank, rfl⟩
  · refine (ascending_findBreakpoints A _ _ _).bind fun found hasc => ?_
    cases found with
    | error reason => exact .pure nofun
    | ok points => exact .pure fun _ => Or.inr ⟨points, hasc points rfl, rfl⟩

/-- ファイルを切る仕事の断片の形。 -/
theorem isCut_job (A : Answers) (limits : ChunkLimits) (file : SourceFile) :
    (job limits file).Ensures A fun o => IsCut file limits.budget o.chunks := by
  unfold job
  refine (Access.Ensures.trivial _).bind fun supported _ => ?_
  split
  · exact .pure (isCut_byLine _ _ _)
  · refine (isCut_treeJob A file _).bind fun outcome htree => ?_
    split
    · next hparsed => exact .pure (htree hparsed)
    · exact .pure (isCut_byLine _ _ _)

/-- ファイルを切った断片の形。 -/
theorem isCut_chunk (limits : ChunkLimits) (registry : Registry) (file : SourceFile) :
    IsCut file limits.budget (chunk limits registry file).1.chunks :=
  (isCut_job .any limits file |>.run Answers.kept_any trivial).1

/-- 行頭の宣言で切った断片は、行を分ける。 -/
theorem linePartition_byLine (window : Nat) (file : SourceFile) (budget : Nat) :
    LinePartition file.path file.text (byLine window file budget).chunks :=
  (isCut_byLine window file budget).linePartition

/-- 構文木の切れ目で切った断片は、切れたなら行を分ける。 -/
theorem linePartition_byTree (registry : Registry) (file : SourceFile) (budget : Nat)
    (h : (byTree registry file budget).1.parsed = true) :
    LinePartition file.path file.text (byTree registry file budget).1.chunks :=
  ((isCut_treeJob .any file budget |>.run Answers.kept_any trivial).1 h).linePartition

/-- ファイルを切った断片は、行を分ける。 -/
theorem linePartition_chunk (limits : ChunkLimits) (registry : Registry) (file : SourceFile) :
    LinePartition file.path file.text (chunk limits registry file).1.chunks :=
  (isCut_chunk limits registry file).linePartition

/--
**断片は行を失わず、重ねない。**

構文木で切れたとき、行頭の宣言で切ったとき、切り方を選んで切ったときの三つとも、
断片の列はファイルの行を分ける。
-/
theorem chunks_partition_lines (limits : ChunkLimits) (registry : Registry) (file : SourceFile)
    (budget window : Nat) :
    ((byTree registry file budget).1.parsed = true →
      LinePartition file.path file.text (byTree registry file budget).1.chunks)
    ∧ LinePartition file.path file.text (byLine window file budget).chunks
    ∧ LinePartition file.path file.text (chunk limits registry file).1.chunks :=
  ⟨linePartition_byTree registry file budget, linePartition_byLine window file budget,
    linePartition_chunk limits registry file⟩

/-- 構文木で切れる二つの宣言のファイル。 -/
def twoDeclarations : SourceFile :=
  { path := "src/a.rs"
    text := "use a;\n\nfn f() {}\n"
    language := .rust
    trees := fun _ _ => some
      { root := .mk "source_file" 0 18
          [.mk "use_declaration" 0 6 [] [], .mk "function_item" 8 17 [] []] [] } }

/-- 宣言が二つあるファイルを構文木で切っても、行は失われない。 -/
theorem twoDeclarations_partition :
    (byTree (.ofLoader .builtin) twoDeclarations 1500).1.parsed = true
    ∧ (byTree (.ofLoader .builtin) twoDeclarations 1500).1.chunks.map (·.id)
      = ["src/a.rs:1-2", "src/a.rs:3-3"]
    ∧ LinePartition "src/a.rs" "use a;\n\nfn f() {}\n"
      (byTree (.ofLoader .builtin) twoDeclarations 1500).1.chunks := by
  refine ⟨by decide +kernel, by decide +kernel, ?_⟩
  exact (chunks_partition_lines {} (.ofLoader .builtin) twoDeclarations 1500 60).1
    (by decide +kernel)

end Chunking

end CodeSearch
