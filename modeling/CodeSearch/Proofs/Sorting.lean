import CodeSearch.Sorting
import Mathlib.Data.List.Perm.Subperm

/-!
# 安定な整列の結果は順に並ぶ

比較 `before` が、並べる項目どうしで順序の比較になっていれば（`Orders`）、整列の結果では、後にある項目が
前にある項目より前に来るべきものであることはない。順序の比較であることは、並べる項目についてだけ求める。
比べられない値が型にあっても、それが列になければよい。

* `inOrder_stableSort` — 整列の結果は順に並び、同点は元の並びのままである
* `stableSort_map` — 比較を変えない書き換えは、整列の前にしても後にしても同じである
* `Orders.place_lt_iff` — 並べた後の場所（`place`）の前後は、比較と元の順で決まる
* `place_le_place` — 前に並ぶものが減れば、場所は後ろへは動かない
-/

namespace CodeSearch

variable {α : Type} {before : α → α → Bool} {xs : List α}

/-- `xs` の項目どうしで、`before` が順序の比較であること。 -/
structure Orders (before : α → α → Bool) (xs : List α) : Prop where
  /-- 互いに相手より前に来ることはない。 -/
  asymm : ∀ a ∈ xs, ∀ b ∈ xs, before a b = true → before b a = false
  /-- 前に来るべきでないことは、間の項目を通して伝わる。 -/
  trans : ∀ a ∈ xs, ∀ b ∈ xs, ∀ c ∈ xs, before a b = false → before b c = false → before a c = false

/-- `a` が `b` の前にあってよいこと。どちらも前に来るべきでなければ、元の並び `R` のとおりである。 -/
def InOrder (before : α → α → Bool) (R : α → α → Prop) (a b : α) : Prop :=
  before b a = false ∧ (before a b = false → R a b)

/-- 逆順に並んだ列に、どの項目よりも後にあった `x` を入れても、逆順に並ぶ。 -/
theorem Orders.insertBack (h : Orders before xs) {R : α → α → Prop} {x : α} (hx : x ∈ xs) :
    ∀ {ys : List α}, (∀ y ∈ ys, y ∈ xs ∧ R y x) → ys.Pairwise (fun a b => InOrder before R b a) →
    (insertBack before x ys).Pairwise fun a b => InOrder before R b a
  | [], _, _ => List.pairwise_singleton _ _
  | y :: ys, hsub, hys => by
    obtain ⟨hy, hrest⟩ := List.pairwise_cons.mp hys
    obtain ⟨⟨hyx, hR⟩, hsub⟩ := List.forall_mem_cons.mp hsub
    unfold CodeSearch.insertBack
    split
    · next hbefore =>
      refine List.pairwise_cons.mpr ⟨fun z hz => ?_, h.insertBack hx hsub hrest⟩
      rcases List.mem_cons.mp ((insertBack_perm before x ys).mem_iff.mp hz) with rfl | hz
      · refine ⟨h.asymm _ hx y hyx hbefore, fun hnot => ?_⟩
        rw [hbefore] at hnot
        cases hnot
      · exact hy z hz
    · next hnot =>
      have hfirst : before x y = false := Bool.eq_false_iff.mpr hnot
      refine List.pairwise_cons.mpr ⟨fun z hz => ?_, hys⟩
      rcases List.mem_cons.mp hz with rfl | hz
      · exact ⟨hfirst, fun _ => hR⟩
      · obtain ⟨hzx, hRz⟩ := hsub z hz
        exact ⟨h.trans x hx y hyx z hzx hfirst (hy z hz).1, fun _ => hRz⟩

/-- **整列の結果は順に並び、同点は元の並びのままである。** -/
theorem inOrder_stableSort (h : Orders before xs) {R : α → α → Prop} (hR : xs.Pairwise R) :
    (stableSort before xs).Pairwise (InOrder before R) := by
  -- 済んだ列は `xs` の項目だけからなり、逆順に並び、どの項目もまだの項目より前にあった
  have hfold : ∀ ys acc : List α, (∀ y ∈ ys, y ∈ xs) → ys.Pairwise R → (∀ y ∈ acc, y ∈ xs) →
      (∀ y ∈ acc, ∀ z ∈ ys, R y z) → acc.Pairwise (fun a b => InOrder before R b a) →
      (ys.foldl (fun acc x => insertBack before x acc) acc).Pairwise
        fun a b => InOrder before R b a := by
    intro ys
    induction ys with
    | nil => exact fun _ _ _ _ _ hacc => hacc
    | cons y ys ih =>
      intro acc hys hpair hsub hlater hacc
      obtain ⟨hy, hys⟩ := List.forall_mem_cons.mp hys
      obtain ⟨hfirst, hpair⟩ := List.pairwise_cons.mp hpair
      have hmem : ∀ z ∈ insertBack before y acc, z = y ∨ z ∈ acc := fun z hz =>
        List.mem_cons.mp ((insertBack_perm before y acc).mem_iff.mp hz)
      refine ih _ hys hpair (fun z hz => ?_) (fun z hz w hw => ?_)
        (h.insertBack hy (fun z hz => ⟨hsub z hz, hlater z hz y List.mem_cons_self⟩) hacc)
      · rcases hmem z hz with rfl | hz
        · exact hy
        · exact hsub z hz
      · rcases hmem z hz with rfl | hz
        · exact hfirst w hw
        · exact hlater z hz w (List.mem_cons_of_mem y hw)
  unfold stableSort
  rw [List.pairwise_reverse]
  exact hfold xs [] (fun _ hx => hx) hR nofun nofun .nil

/-- **整列の結果は順に並ぶ。** -/
theorem pairwise_stableSort (h : Orders before xs) :
    (stableSort before xs).Pairwise fun a b => before b a = false :=
  (inOrder_stableSort (R := fun _ _ => True) h (List.pairwise_of_forall fun _ _ => trivial)).imp
    fun hab => hab.1

/-- **順に並んだ列は、整列しても変わらない。** -/
theorem stableSort_of_pairwise (h : xs.Pairwise fun a b => before b a = false) :
    stableSort before xs = xs := by
  have hfold : ∀ ys acc : List α, ys.Pairwise (fun a b => before b a = false) →
      (∀ y ∈ acc, ∀ z ∈ ys, before z y = false) →
      ys.foldl (fun acc x => insertBack before x acc) acc = ys.reverse ++ acc := by
    intro ys
    induction ys with
    | nil => exact fun _ _ _ => rfl
    | cons y ys ih =>
      intro acc hys hacc
      obtain ⟨hy, hys⟩ := List.pairwise_cons.mp hys
      -- どの済んだ項目も越えないので、そのまま先頭に入る
      have hinsert : insertBack before y acc = y :: acc := by
        cases acc with
        | nil => rfl
        | cons z acc =>
          unfold insertBack
          rw [hacc z List.mem_cons_self y List.mem_cons_self]
          rfl
      rw [List.foldl_cons, hinsert, ih (y :: acc) hys, List.reverse_cons, List.append_assoc]
      · rfl
      · intro z hz w hw
        rcases List.mem_cons.mp hz with rfl | hz
        · exact hy w hw
        · exact hacc z hz w (List.mem_cons_of_mem y hw)
  unfold stableSort
  rw [hfold xs [] h fun _ hy => absurd hy List.not_mem_nil, List.append_nil, List.reverse_reverse]

/-! ## 書き換えてから並べる -/

variable {β : Type}

theorem insertBack_map (before : β → β → Bool) (f : α → β) (x : α) (ys : List α) :
    insertBack before (f x) (ys.map f)
      = (insertBack (fun a b => before (f a) (f b)) x ys).map f := by
  induction ys with
  | nil => rfl
  | cons y ys ih =>
    rw [List.map_cons]
    unfold insertBack
    rw [ih]
    split <;> rfl

/-- **比較を変えない書き換えは、整列の前にしても後にしても同じである。** -/
theorem stableSort_map (before : β → β → Bool) (f : α → β) (xs : List α) :
    stableSort before (xs.map f) = (stableSort (fun a b => before (f a) (f b)) xs).map f := by
  have hfold : ∀ ys acc : List α,
      (ys.map f).foldl (fun acc x => insertBack before x acc) (acc.map f)
        = (ys.foldl (fun acc x => insertBack (fun a b => before (f a) (f b)) x acc) acc).map f := by
    intro ys
    induction ys with
    | nil => exact fun _ => rfl
    | cons y ys ih =>
      intro acc
      rw [List.map_cons, List.foldl_cons, List.foldl_cons, insertBack_map, ih]
  unfold stableSort
  rw [List.map_reverse]
  exact congrArg List.reverse (hfold xs [])

/-! ## 並べた後の場所 -/

/-- 番号を付けてから並べたもの。番号は、並べる前に何番めだったかである。 -/
def arrangement (before : α → α → Bool) (xs : List α) : List (α × Nat) :=
  stableSort (fun a b => before a.1 b.1) xs.zipIdx

/-- 並べる前に `i` 番めだった項目が、並べた後に来る場所。 -/
def place (before : α → α → Bool) (xs : List α) (i : Nat) : Nat :=
  ((arrangement before xs).map Prod.snd).idxOf i

theorem map_fst_arrangement (before : α → α → Bool) (xs : List α) :
    (arrangement before xs).map Prod.fst = stableSort before xs := by
  unfold arrangement
  rw [← stableSort_map, List.zipIdx_map_fst]

theorem arrangement_perm (before : α → α → Bool) (xs : List α) :
    (arrangement before xs).Perm xs.zipIdx :=
  stableSort_perm _ _

theorem numbers_perm (before : α → α → Bool) (xs : List α) :
    ((arrangement before xs).map Prod.snd).Perm (List.range xs.length) := by
  have h := (arrangement_perm before xs).map Prod.snd
  rwa [List.zipIdx_map_snd, ← List.range_eq_range'] at h

theorem mem_numbers (before : α → α → Bool) {i : Nat} :
    i ∈ (arrangement before xs).map Prod.snd ↔ i < xs.length := by
  rw [(numbers_perm before xs).mem_iff, List.mem_range]

theorem place_lt (before : α → α → Bool) {i : Nat} (hi : i < xs.length) :
    place before xs i < (arrangement before xs).length := by
  have hlt := List.idxOf_lt_length_iff.mpr ((mem_numbers before).mpr hi)
  rwa [List.length_map] at hlt

/-- その場所にあるのは、番号 `i` の付いた項目である。 -/
theorem arrangement_place (before : α → α → Bool) {i : Nat} {a : α} (ha : xs[i]? = some a) :
    (arrangement before xs)[place before xs i]? = some (a, i) := by
  have hlt := place_lt before (List.getElem?_eq_some_iff.mp ha).1
  have hnumber : (arrangement before xs)[place before xs i].2 = i := by
    have hin : place before xs i < ((arrangement before xs).map Prod.snd).length := by
      rwa [List.length_map]
    exact (List.getElem_map Prod.snd).symm.trans (List.getElem_idxOf hin)
  have hmem := (arrangement_perm before xs).mem_iff.mp (List.getElem_mem hlt)
  rw [List.mem_zipIdx_iff_getElem?, hnumber, ha] at hmem
  rw [List.getElem?_eq_getElem hlt]
  exact congrArg some (Prod.ext (Option.some.inj hmem).symm hnumber)

/-- **並べる前に `i` 番めだった項目は、並べた後はその場所にある。** -/
theorem getElem?_place (before : α → α → Bool) {i : Nat} {a : α} (ha : xs[i]? = some a) :
    (stableSort before xs)[place before xs i]? = some a := by
  rw [← map_fst_arrangement, List.getElem?_map, arrangement_place before ha]
  rfl

theorem place_inj {i j : Nat} (hi : i < xs.length) (h : place before xs i = place before xs j) :
    i = j :=
  (List.idxOf_inj ((mem_numbers before).mpr hi)).mp h

/-- 番号を付けても、順序の比較である。 -/
theorem Orders.zipIdx (h : Orders before xs) :
    Orders (fun a b : α × Nat => before a.1 b.1) xs.zipIdx where
  asymm := fun _ ha _ hb => h.asymm _ (List.fst_mem_of_mem_zipIdx ha) _ (List.fst_mem_of_mem_zipIdx hb)
  trans := fun _ ha _ hb _ hc => h.trans _ (List.fst_mem_of_mem_zipIdx ha) _
    (List.fst_mem_of_mem_zipIdx hb) _ (List.fst_mem_of_mem_zipIdx hc)

/-- 番号は増えていく。 -/
theorem pairwise_zipIdx (xs : List α) : xs.zipIdx.Pairwise fun a b => a.2 < b.2 := by
  rw [← List.pairwise_map (f := Prod.snd) (R := (· < ·)), List.zipIdx_map_snd, ← List.range_eq_range']
  exact List.pairwise_lt_range

section

variable {i j : Nat} {a b : α}

/-- 前に並んだほうは、前に来てよいほうである。 -/
theorem Orders.of_place_lt (h : Orders before xs) (ha : xs[i]? = some a) (hb : xs[j]? = some b)
    (hlt : place before xs i < place before xs j) :
    before b a = false ∧ (before a b = false → i < j) := by
  have hpair := List.pairwise_iff_getElem.mp (inOrder_stableSort h.zipIdx (pairwise_zipIdx xs))
  obtain ⟨hpi, hat⟩ := List.getElem?_eq_some_iff.mp (arrangement_place before ha)
  obtain ⟨hpj, hbt⟩ := List.getElem?_eq_some_iff.mp (arrangement_place before hb)
  have horder : InOrder (fun a b : α × Nat => before a.1 b.1) (fun a b => a.2 < b.2)
      (arrangement before xs)[place before xs i] (arrangement before xs)[place before xs j] :=
    hpair _ _ hpi hpj hlt
  rwa [hat, hbt] at horder

/-- **前に並ぶのは、前に来るべきほうか、同点なら元から前にあったほうである。** -/
theorem Orders.place_lt_iff (h : Orders before xs) (ha : xs[i]? = some a) (hb : xs[j]? = some b) :
    place before xs i < place before xs j ↔
      before a b = true ∨ before b a = false ∧ i < j := by
  have hi := (List.getElem?_eq_some_iff.mp ha).1
  have hin := List.mem_of_getElem? ha
  have hjn := List.mem_of_getElem? hb
  constructor
  · intro hlt
    obtain ⟨hba, htie⟩ := h.of_place_lt ha hb hlt
    cases hab : before a b with
    | true => exact Or.inl rfl
    | false => exact Or.inr ⟨hba, htie hab⟩
  · intro horder
    rcases Nat.lt_trichotomy (place before xs i) (place before xs j) with hlt | heq | hgt
    · exact hlt
    · -- 同じ場所なら同じ番号なので、どちらも前に来るべきではない
      obtain rfl := place_inj hi heq
      obtain rfl := Option.some.inj (ha.symm.trans hb)
      rcases horder with hself | ⟨-, hlt⟩
      · have := h.asymm a hin a hin hself
        rw [hself] at this
        cases this
      · omega
    · obtain ⟨hab, htie⟩ := h.of_place_lt hb ha hgt
      rcases horder with hbefore | ⟨hba, hlt⟩
      · rw [hbefore] at hab
        cases hab
      · have := htie hba
        omega

/-- **前に並ぶものが減れば、場所は後ろへは動かない。** -/
theorem place_le_place {before' : α → α → Bool} {ys : List α} (hlen : ys.length = xs.length)
    (hi : i < ys.length)
    (h : ∀ j < ys.length, place before' ys j < place before' ys i →
      place before xs j < place before xs i) :
    place before' ys i ≤ place before xs i := by
  -- 前に並ぶ番号の列は、どちらも重なりがなく、その数が場所である
  have hfront : ∀ {before : α → α → Bool} {xs : List α}, i < xs.length →
      (((arrangement before xs).map Prod.snd).take (place before xs i)).length
        = place before xs i := by
    intro before xs hi
    rw [List.length_take, List.length_map]
    exact Nat.min_eq_left (Nat.le_of_lt (place_lt before hi))
  have hnodup : (((arrangement before' ys).map Prod.snd).take (place before' ys i)).Nodup :=
    ((numbers_perm before' ys).nodup_iff.mpr List.nodup_range).sublist (List.take_sublist _ _)
  have hsub : ((arrangement before' ys).map Prod.snd).take (place before' ys i)
      ⊆ ((arrangement before xs).map Prod.snd).take (place before xs i) := by
    intro j hj
    have hin := List.mem_of_mem_take hj
    have hjlt := (mem_numbers before').mp hin
    refine (List.mem_take_iff_idxOf_lt ((mem_numbers before).mpr (hlen ▸ hjlt))).mpr ?_
    exact h j hjlt ((List.mem_take_iff_idxOf_lt hin).mp hj)
  have hle := (hnodup.subperm hsub).length_le
  rwa [hfront hi, hfront (hlen ▸ hi)] at hle

end

end CodeSearch
