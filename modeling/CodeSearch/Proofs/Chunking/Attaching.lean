import CodeSearch.Breakpoint.Walk
import CodeSearch.Proofs.Syntax.Rows
import Mathlib.Data.List.Chain
import Mathlib.Data.List.Infix

/-!
# 宣言の前の注釈

宣言の断片は、宣言のすぐ前に続く注釈から始まる。付く注釈は、宣言の前に並ぶ兄弟の末尾の並びで、どれも
注釈であり、行を空けずに宣言まで続き、前の宣言の終わる行より後に始まるものである（`Attached`）。
そのような並びのうちいちばん長いものの先頭が、断片の始まる行を決める。

* `previous_iff` — 前の宣言は、近い順に見て最初の、注釈でない兄弟である
* `attached_cons_iff` — 並びを一つ前の兄弟まで延ばせるのは、さかのぼりがそこを越えるときである
* `climb_attaches` — さかのぼりは、付く並びのうちいちばん長いものの先頭で止まる
* `leadingRow_attaches_maximally` — 断片の始まる行と、兄弟の間でのその行の並び
-/

namespace CodeSearch

/-- 兄弟が、重ならずに本文の順に並ぶこと。 -/
structure Node.DocumentOrder (ns : List Node) : Prop where
  start_le_stop : ∀ n ∈ ns, n.start ≤ n.stop
  stop_le_start : ns.Pairwise fun a b => a.stop ≤ b.start

namespace Scope

variable {s : Scope} {before run other ns : List Node} {n c d m : Node}

/-! ## 付く注釈 -/

/-- `b` が、`a` の終わる行か、すぐ次の行までに始まること。間に空いた行はない。 -/
def Adjoins (s : Scope) (a b : Node) : Prop := s.source.firstRow b ≤ s.source.lastRow a + 1

/-- `before` に並ぶ兄弟のうち、いちばん後ろの、注釈でないもの。 -/
def Previous (s : Scope) (before : List Node) (d : Node) : Prop :=
  ∃ earlier between, before = earlier ++ d :: between ∧ s.isLeading d = false
    ∧ ∀ c ∈ between, s.isLeading c = true

/-- 節 `n` の前に並ぶ兄弟 `before` の末尾の並び `run` が、`n` に付くこと。 -/
structure Attached (s : Scope) (before : List Node) (n : Node) (run : List Node) : Prop where
  suffix : run <:+ before
  leading : ∀ c ∈ run, s.isLeading c = true
  /-- 並びの中でも、並びと `n` の間でも、行は空かない。 -/
  adjoins : (run ++ [n]).IsChain s.Adjoins
  /-- 前の宣言の終わる行に始まるものは付かない。 -/
  below : ∀ d, s.Previous before d → ∀ c ∈ run, s.source.lastRow d < s.source.firstRow c

/-- 付く並びのうちいちばん長いこと。一つ前の兄弟まで延ばすと、付く条件のどれかが破れる。 -/
def Longest (s : Scope) (before : List Node) (n : Node) (run : List Node) : Prop :=
  s.Attached before n run ∧ ∀ other, s.Attached before n other → other <:+ run

/-- 付く並びの先頭。何も付かなければ節そのものである。 -/
def topOf (run : List Node) (n : Node) : Node := run.head?.getD n

/-- **前の宣言は、近い順に見て最初の、注釈でない兄弟である。** -/
theorem previous_iff :
    s.Previous before d ↔ before.reverse.find? (fun b => !s.isLeading b) = some d := by
  rw [List.find?_eq_some_iff_append]
  constructor
  · rintro ⟨earlier, between, rfl, hd, hbetween⟩
    refine ⟨by rw [hd]; rfl, between.reverse, earlier.reverse, by simp, fun c hc => ?_⟩
    rw [hbetween c (List.mem_reverse.mp hc)]
    rfl
  · rintro ⟨hd, nearer, farther, hsplit, hnearer⟩
    refine ⟨farther.reverse, nearer.reverse, ?_, by simpa using hd, fun c hc => ?_⟩
    · rw [← List.reverse_reverse before, hsplit]
      simp
    · simpa using hnearer c (List.mem_reverse.mp hc)

/-- 何も付けないことはいつでもできる。 -/
theorem attached_nil : s.Attached before n [] where
  suffix := List.nil_suffix
  leading := nofun
  adjoins := List.IsChain.singleton n
  below := fun _ _ => nofun

/-- 付く並びの末尾の並びは、付く。 -/
theorem Attached.of_suffix (h : s.Attached before n run) (hother : other <:+ run) :
    s.Attached before n other where
  suffix := hother.trans h.suffix
  leading c hc := h.leading c (hother.subset hc)
  adjoins := by
    obtain ⟨front, rfl⟩ := hother
    have hchain := h.adjoins
    rw [List.append_assoc] at hchain
    exact hchain.right_of_append
  below d hd c hc := h.below d hd c (hother.subset hc)

/-- 並びを一つ前の兄弟 `c` まで延ばせるのは、`c` が注釈で、行を空けずに続き、前の宣言より下に始まるときである。 -/
theorem attached_cons_iff (h : s.Attached before n run) (hsuffix : c :: run <:+ before) :
    s.Attached before n (c :: run) ↔ s.isLeading c = true ∧ s.Adjoins c (topOf run n)
      ∧ ∀ d, s.Previous before d → s.source.lastRow d < s.source.firstRow c := by
  have hhead : (run ++ [n]).head? = some (topOf run n) := by
    cases run <;> rfl
  constructor
  · intro hc
    refine ⟨hc.leading c List.mem_cons_self, ?_, fun d hd => hc.below d hd c List.mem_cons_self⟩
    exact (List.isChain_cons.mp hc.adjoins).1 _ hhead
  · rintro ⟨hleading, hadjoins, hbelow⟩
    refine ⟨hsuffix, List.forall_mem_cons.mpr ⟨hleading, h.leading⟩, ?_, fun d hd =>
      List.forall_mem_cons.mpr ⟨hbelow d hd, h.below d hd⟩⟩
    show List.IsChain s.Adjoins (c :: (run ++ [n]))
    rw [List.isChain_cons, hhead]
    refine ⟨fun b hb => ?_, h.adjoins⟩
    rwa [← Option.some.inj hb]

/-! ## さかのぼること -/

/-- 前の宣言の終わる行。 -/
def floorOf (s : Scope) (before : List Node) : Option Nat :=
  (before.reverse.find? (fun b => !s.isLeading b)).map s.source.lastRow

theorem floorOf_any_eq_false (first : Nat) : (s.floorOf before).any (first ≤ ·) = false
    ↔ ∀ d, s.Previous before d → s.source.lastRow d < first := by
  simp only [previous_iff, floorOf]
  cases before.reverse.find? (fun b => !s.isLeading b) <;> simp

/-- 次の兄弟も付くなら、さかのぼりはそれを越える。 -/
theorem climb_of_attached (h : s.Attached before n (c :: run)) (rest : List Node) :
    s.climb (s.floorOf before) (s.source.firstRow (topOf run n)) (c :: rest)
      = s.climb (s.floorOf before) (s.source.firstRow c) rest := by
  obtain ⟨hleading, hadjoins, hbelow⟩ :=
    (attached_cons_iff (h.of_suffix (List.suffix_cons c run)) h.suffix).mp h
  have hfloor := (floorOf_any_eq_false _).mpr hbelow
  have hrow : ¬s.source.lastRow c + 1 < s.source.firstRow (topOf run n) := Nat.not_lt.mpr hadjoins
  rw [climb]
  simp [hleading, hfloor, hrow]

/-- 次の兄弟が付かなければ、さかのぼりはそこで止まる。 -/
theorem climb_of_not_attached (h : s.Attached before n run) (hsuffix : c :: run <:+ before)
    (hnot : ¬s.Attached before n (c :: run)) (rest : List Node) :
    s.climb (s.floorOf before) (s.source.firstRow (topOf run n)) (c :: rest)
      = s.source.firstRow (topOf run n) := by
  rw [climb]
  by_cases hleading : s.isLeading c = true
  · by_cases hfloor : (s.floorOf before).any (s.source.firstRow c ≤ ·) = true
    · simp [hleading, hfloor]
    · have hbelow := (floorOf_any_eq_false (s.source.firstRow c)).mp (by simpa using hfloor)
      have hrow : s.source.lastRow c + 1 < s.source.firstRow (topOf run n) := by
        refine Nat.lt_of_not_le fun hadjoins => hnot ?_
        exact (attached_cons_iff h hsuffix).mpr ⟨hleading, hadjoins, hbelow⟩
      simp [hleading, hrow]
  · simp [hleading]

/-- **さかのぼりは、付く並びのうちいちばん長いものの先頭で止まる。** -/
theorem climb_attaches : ∀ {rest run : List Node}, rest.reverse ++ run = before →
    s.Attached before n run → ∃ longest, s.Longest before n longest
      ∧ s.climb (s.floorOf before) (s.source.firstRow (topOf run n)) rest
        = s.source.firstRow (topOf longest n)
  | [], run, hsplit, h => by
    refine ⟨run, ⟨h, fun other hother => ?_⟩, by rw [climb]⟩
    rw [List.reverse_nil, List.nil_append] at hsplit
    exact hsplit ▸ hother.suffix
  | c :: rest, run, hsplit, h => by
    have hnext : rest.reverse ++ c :: run = before := by
      rw [← hsplit, List.reverse_cons, List.append_assoc]
      rfl
    have hsuffix : c :: run <:+ before := ⟨rest.reverse, hnext⟩
    by_cases hc : s.Attached before n (c :: run)
    · rw [climb_of_attached hc]
      exact climb_attaches hnext hc
    · refine ⟨run, ⟨h, fun other hother => ?_⟩, climb_of_not_attached h hsuffix hc rest⟩
      -- 付く並びが `run` より長ければ `c` まで含むので、`c` も付いてしまう
      rcases List.suffix_or_suffix_of_suffix hother.suffix hsuffix with hshort | hlong
      · rcases List.suffix_cons_iff.mp hshort with rfl | hrun
        · exact absurd hother hc
        · exact hrun
      · exact absurd (hother.of_suffix hlong) hc

/-- 断片の始まる行は、付く並びのうちいちばん長いものの先頭の行である。 -/
theorem exists_longest (s : Scope) (before : List Node) (n : Node) : ∃ run,
    s.Longest before n run ∧ s.leadingRow n before.reverse = s.source.firstRow (topOf run n) :=
  climb_attaches (List.append_nil _ ▸ List.reverse_reverse before) attached_nil

/-! ## 兄弟の並びの上で -/

/-- 前にある兄弟の始まる行は、後ろの兄弟の始まる行より後にならない。 -/
theorem firstRow_le_firstRow (src : Source) (h : Node.DocumentOrder (before ++ n :: ns))
    (hc : c ∈ before) : src.firstRow c ≤ src.firstRow n := by
  have hspan : c.start ≤ c.stop := h.start_le_stop c (List.mem_append_left _ hc)
  have hapart : c.stop ≤ n.start :=
    (List.pairwise_append.mp h.stop_le_start).2.2 c hc n List.mem_cons_self
  exact src.row_mono (hspan.trans hapart)

/-- 付く並びは、それより前の兄弟より上には始まらない。 -/
theorem firstRow_le_topOf (src : Source) (h : Node.DocumentOrder ((before ++ run) ++ n :: ns))
    (hc : c ∈ before) : src.firstRow c ≤ src.firstRow (topOf run n) := by
  cases run with
  | nil =>
    rw [List.append_nil] at h
    exact firstRow_le_firstRow src h hc
  | cons b run =>
    rw [List.append_assoc, List.cons_append] at h
    exact firstRow_le_firstRow src h hc

/-- 付く並びは、節より下には始まらない。 -/
theorem topOf_le_firstRow (src : Source) (h : Node.DocumentOrder ((before ++ run) ++ n :: ns)) :
    src.firstRow (topOf run n) ≤ src.firstRow n := by
  cases run with
  | nil => exact Nat.le_refl _
  | cons b run =>
    exact firstRow_le_firstRow src h (List.mem_append_right _ List.mem_cons_self)

theorem take_append_cons_drop {i : Nat} (h : ns[i]? = some n) :
    ns.take i ++ n :: ns.drop (i + 1) = ns := by
  obtain ⟨hi, rfl⟩ := List.getElem?_eq_some_iff.mp h
  rw [← List.drop_eq_getElem_cons hi, List.take_append_drop]

/-- 節の断片は、節より下には始まらず、前の宣言の終わる行より下にある。節そのものがそうでないときを除く。 -/
theorem Longest.row_bounds (h : s.Longest before n run) (horder : Node.DocumentOrder (before ++ n :: ns)) :
    s.source.firstRow (topOf run n) ≤ s.source.firstRow n
    ∧ ∀ d, s.Previous before d → s.source.firstRow (topOf run n) ≤ s.source.lastRow d →
      s.source.firstRow (topOf run n) = s.source.firstRow n := by
  obtain ⟨front, rfl⟩ := h.1.suffix
  refine ⟨topOf_le_firstRow s.source horder, fun d hd hle => ?_⟩
  cases run with
  | nil => rfl
  | cons c run => exact absurd (h.1.below d hd c List.mem_cons_self) (Nat.not_lt.mpr hle)

/-- 前にある宣言の始まる行より、上に始まることはない。 -/
theorem Longest.firstRow_le (h : s.Longest before n run)
    (horder : Node.DocumentOrder (before ++ n :: ns)) (hm : m ∈ before)
    (hdeclared : s.isLeading m = false) : s.source.firstRow m ≤ s.source.firstRow (topOf run n) := by
  obtain ⟨front, rfl⟩ := h.1.suffix
  rcases List.mem_append.mp hm with hfront | hrun
  · exact firstRow_le_topOf s.source horder hfront
  · -- 付く並びに宣言はない
    rw [h.1.leading m hrun] at hdeclared
    cases hdeclared

/--
**宣言の前の注釈は、その宣言だけに、続く限り付く。**

本文の順に並ぶ兄弟のどの節でも、断片の始まる行は、付く並びのうちいちばん長いものの先頭の行で、何も付かなければ
節の始まる行である。節の始まる行より下にはならず、節そのものがそこに始まるのでない限り、前の宣言の終わる行より
下にある。宣言の断片の始まる行は、後ろの節のものより下にならない。
-/
theorem leadingRow_attaches_maximally (s : Scope) (h : Node.DocumentOrder ns) :
    (∀ i n, ns[i]? = some n →
      let r := s.leadingRow n (ns.take i).reverse
      (∃ run, s.Longest (ns.take i) n run ∧ r = s.source.firstRow (topOf run n))
      ∧ r ≤ s.source.firstRow n
      ∧ ∀ d, s.Previous (ns.take i) d → r ≤ s.source.lastRow d → r = s.source.firstRow n)
    ∧ ∀ i j m n, i < j → ns[i]? = some m → ns[j]? = some n → s.isLeading m = false →
      s.leadingRow m (ns.take i).reverse ≤ s.leadingRow n (ns.take j).reverse := by
  have horder : ∀ i n, ns[i]? = some n →
      Node.DocumentOrder (ns.take i ++ n :: ns.drop (i + 1)) := by
    intro i n hn
    rwa [take_append_cons_drop hn]
  constructor
  · intro i n hn
    obtain ⟨run, hlongest, hrow⟩ := s.exists_longest (ns.take i) n
    rw [hrow]
    exact ⟨⟨run, hlongest, rfl⟩, hlongest.row_bounds (horder i n hn)⟩
  · intro i j m n hij hm hn hdeclared
    obtain ⟨run, hlongest, hrow⟩ := s.exists_longest (ns.take i) m
    obtain ⟨run', hlongest', hrow'⟩ := s.exists_longest (ns.take j) n
    have hmem : m ∈ ns.take j := by
      refine List.mem_of_getElem? (i := i) ?_
      rw [List.getElem?_take_of_lt hij, hm]
    rw [hrow, hrow']
    exact (hlongest.row_bounds (horder i m hm)).1.trans
      (hlongest'.firstRow_le (horder j n hn) hmem hdeclared)

/-- 宣言と同じ行の注釈、次の行の注釈、修飾、もう一つの宣言が並ぶ本文。 -/
def trailed : Scope :=
  { source := .ofString "a //\n//\n#[]\nb\n", table := .rust, language := .rust }

/-- その兄弟の列。 -/
def trailedNodes : List Node :=
  [.mk "function_item" 0 1 [] [], .mk "line_comment" 2 4 [] [], .mk "line_comment" 5 7 [] [],
    .mk "attribute_item" 8 11 [] [], .mk "function_item" 12 13 [] []]

/-- 前の宣言と同じ行の注釈は付かず、次の行の注釈と修飾が付く。 -/
theorem leadingRow_attaches_maximally_trailed :
    let first : Node := .mk "function_item" 0 1 [] []
    let second : Node := .mk "function_item" 12 13 [] []
    Node.DocumentOrder trailedNodes ∧ trailed.isLeading first = false
    ∧ trailed.leadingRow second (trailedNodes.take 4).reverse = 1
    ∧ (∃ run, trailed.Longest (trailedNodes.take 4) second run
      ∧ 1 = trailed.source.firstRow (topOf run second))
    ∧ trailed.leadingRow first [] ≤ 1 := by
  intro first second
  have horder : Node.DocumentOrder trailedNodes :=
    ⟨by simp [trailedNodes, Node.start, Node.stop], by simp [trailedNodes, Node.start, Node.stop]⟩
  have hdeclared : trailed.isLeading first = false := by decide
  have hrow : trailed.leadingRow second (trailedNodes.take 4).reverse = 1 := by decide +kernel
  obtain ⟨hrows, hmono⟩ := leadingRow_attaches_maximally trailed horder
  obtain ⟨hrun, -⟩ := hrows 4 second rfl
  have hle := hmono 0 4 first second (by decide) rfl rfl hdeclared
  rw [hrow] at hrun hle
  exact ⟨horder, hdeclared, hrow, hrun, hle⟩

end Scope

end CodeSearch
