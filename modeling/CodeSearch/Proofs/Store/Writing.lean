import CodeSearch.Proofs.Store.Files

/-!
# 断られる書き込み

書き込みは、長さを確かめ、用意をし、ファイルを消し、断片を保存する手順である（`Store.writing`）。
途中で断れば、それまでに変えたところは残る。しかし断るのは長さを確かめるところだけで、そこまでに
変えるものはないので、断られた書き込みは何も変えない。

* `write_cases` — 書き込みは、断られて何も変えないか、用意をして保存するかのどちらかである
* `prepareFor_cases` — 用意は、長さが合わなければ断り、合えば断らない
* `rejected_writes` — 断られる条件と、断られた後の保存先
-/

namespace CodeSearch.Store

variable {s : Store} {items : List (Chunk × Vec)}

/-! ## 手順の結果 -/

/-- 断られたら元の保存先のままとする。 -/
def settled {α : Type} (s : Store) : Except Error (α × Store) → Except Error α × Store
  | .error e => (.error e, s)
  | .ok (a, t) => (.ok a, t)

/-- 入れ替えるファイルがあれば、その行と記録を消す。 -/
def vacated (s : Store) : Option String → Store
  | none => s
  | some path => s.dropFile path

theorem prepareFor_cons (s : Store) (i : Chunk × Vec) (rest : List (Chunk × Vec)) :
    s.prepareFor (i :: rest)
      = (s.checkLengths i.2.length (i :: rest)).map fun _ => s.prepare i.2.length := rfl

/-- 用意をする手順は、断るときは保存先を変えない。 -/
theorem run_preparing (s : Store) (items : List (Chunk × Vec)) :
    (preparing items).run.run s = s.settled ((s.prepareFor items).map fun u => ((), u)) := by
  cases items with
  | nil => rfl
  | cons i rest =>
    rw [prepareFor_cons]
    -- 長さを確かめるまで何も変えないので、断ったときの保存先は元のままである
    show ((ExceptT.mk (pure (s.checkLengths i.2.length (i :: rest))) >>= fun _ =>
      modify fun s => s.prepare i.2.length : Writing Unit)).run.run s = _
    cases s.checkLengths i.2.length (i :: rest) <;> rfl

/-- **書き込みは、断られて何も変えないか、用意をして保存するかのどちらかである。** -/
theorem write_cases (s : Store) (replaced : Option String) (chunks : List Chunk) :
    (∃ e, s.prepareFor (storable chunks) = .error e ∧ s.write replaced chunks = (.error e, s))
    ∨ ∃ u, s.prepareFor (storable chunks) = .ok u
      ∧ s.write replaced chunks
        = (.ok (storable chunks).length, (u.vacated replaced).putAll (storable chunks)) := by
  have hrun := run_preparing s (storable chunks)
  cases hprep : s.prepareFor (storable chunks) with
  | error e =>
    rw [hprep] at hrun
    refine Or.inl ⟨e, rfl, ?_⟩
    simp only [write, writing, ExceptT.run_bind, StateT.run_bind, hrun]
    rfl
  | ok u =>
    rw [hprep] at hrun
    refine Or.inr ⟨u, rfl, ?_⟩
    simp only [write, writing, ExceptT.run_bind, StateT.run_bind, hrun]
    cases replaced <;> rfl

/-- 手順としての書き込みは、`insert` と `replaceFile` と同じ結果になる。 -/
theorem write_eq (s : Store) (replaced : Option String) (chunks : List Chunk) :
    s.write replaced chunks = s.settled (match replaced with
      | none => s.insert chunks
      | some path => s.replaceFile path chunks) := by
  rcases s.write_cases replaced chunks with ⟨e, hprep, hwrite⟩ | ⟨u, hprep, hwrite⟩ <;>
  · rw [hwrite]
    cases replaced <;> simp only [insert, replaceFile, hprep] <;> rfl

/-! ## 断られる条件 -/

/-- 断片に付いている空でないベクトルの長さ。断片の順に並ぶ。 -/
def widths (chunks : List Chunk) : List Nat :=
  chunks.filterMap fun c => (c.vector.map List.length).filter (0 < ·)

theorem widths_storable (chunks : List Chunk) :
    (storable chunks).map (fun i => i.2.length) = widths chunks := by
  unfold storable widths
  rw [List.map_filterMap]
  refine congrArg (List.filterMap · chunks) (funext fun c => ?_)
  cases c.vector with
  | none => rfl
  | some v => cases v <;> rfl

/-- 長さの列 `ns` が揃っていないか、その先頭が、保存先の決まった長さと違うこと。 -/
def Mismatched (s : Store) (ns : List Nat) : Prop :=
  (∃ m ∈ ns, ∃ n ∈ ns, m ≠ n) ∨ ∃ d n, s.dimensions = some d ∧ ns.head? = some n ∧ d ≠ n

theorem not_mismatched_cons {n : Nat} {ns : List Nat} :
    ¬ s.Mismatched (n :: ns) ↔ (∀ m ∈ n :: ns, m = n) ∧ s.Fits n := by
  constructor
  · intro h
    refine ⟨fun m hm => Classical.byContradiction fun hne => ?_,
      fun d hd => Classical.byContradiction fun hne => ?_⟩
    · exact h (Or.inl ⟨m, hm, n, List.mem_cons_self, hne⟩)
    · exact h (Or.inr ⟨d, n, hd, rfl, hne⟩)
  · rintro ⟨hall, hfits⟩ (⟨a, ha, b, hb, hne⟩ | ⟨d, m, hd, hm, hne⟩)
    · exact hne ((hall a ha).trans (hall b hb).symm)
    · cases hm
      exact hne (hfits d hd)

/-- 長さの確かめは、どれも長さ `n` で、決まった長さとも違わなければ通り、そうでなければ断る。 -/
theorem checkLengths_cases (s : Store) (n : Nat) (items : List (Chunk × Vec)) :
    (∃ a b, s.checkLengths n items = .error (.schemaMismatch a b))
      ∧ ¬ ((∀ i ∈ items, i.2.length = n) ∧ s.Fits n)
    ∨ s.checkLengths n items = .ok () ∧ (∀ i ∈ items, i.2.length = n) ∧ s.Fits n := by
  unfold checkLengths
  cases hodd : items.find? fun i => i.2.length != n with
  | some odd =>
    have hne : odd.2.length ≠ n := by simpa using List.find?_some hodd
    exact Or.inl ⟨⟨_, _, rfl⟩, fun h => hne (h.1 odd (List.mem_of_find?_eq_some hodd))⟩
  | none =>
    have hall : ∀ i ∈ items, i.2.length = n := by
      intro i hi
      simpa using List.find?_eq_none.mp hodd i hi
    simp only []
    cases hd : s.dimensions with
    | none => exact Or.inr ⟨rfl, hall, fun d hd' => nomatch hd.symm.trans hd'⟩
    | some d =>
      by_cases h : d = n
      · refine Or.inr ⟨if_pos h, hall, fun e he => ?_⟩
        rw [← h]
        exact Option.some.inj (he.symm.trans hd)
      · exact Or.inl ⟨⟨_, _, if_neg h⟩, fun hfits => h (hfits.2 d hd)⟩

/-- **用意は、長さが合わなければ断り、合えば断らない。** -/
theorem prepareFor_cases (s : Store) (items : List (Chunk × Vec)) :
    (∃ a b, s.prepareFor items = .error (.schemaMismatch a b))
      ∧ s.Mismatched (items.map fun i => i.2.length)
    ∨ (∃ u, s.prepareFor items = .ok u) ∧ ¬ s.Mismatched (items.map fun i => i.2.length) := by
  cases items with
  | nil =>
    refine Or.inr ⟨⟨s, rfl⟩, ?_⟩
    rintro (⟨m, hm, -⟩ | ⟨d, n, -, hn, -⟩)
    · cases hm
    · cases hn
  | cons i rest =>
    have hall : (∀ m ∈ (i :: rest).map fun i => i.2.length, m = i.2.length)
        ↔ ∀ j ∈ i :: rest, j.2.length = i.2.length := List.forall_mem_map
    have hfits : ¬ s.Mismatched ((i :: rest).map fun i => i.2.length)
        ↔ (∀ j ∈ i :: rest, j.2.length = i.2.length) ∧ s.Fits i.2.length :=
      not_mismatched_cons.trans (and_congr_left' hall)
    rw [prepareFor_cons]
    rcases s.checkLengths_cases i.2.length (i :: rest) with ⟨⟨a, b, hc⟩, hodd⟩ | ⟨hc, heven⟩
    · rw [hc]
      exact Or.inl ⟨⟨a, b, rfl⟩, Classical.not_not.mp (hodd ∘ hfits.mp)⟩
    · rw [hc]
      exact Or.inr ⟨⟨_, rfl⟩, hfits.mpr heven⟩

/-- 断らない用意は、書くものがなければ何もせず、あればその揃った長さについて用意をする。 -/
theorem prepareFor_eq_ok {u : Store} (h : s.prepareFor items = .ok u) :
    items = [] ∧ u = s
    ∨ ∃ n, (∀ i ∈ items, i.2.length = n) ∧ s.Fits n ∧ u = s.prepare n := by
  cases items with
  | nil =>
    cases h
    exact Or.inl ⟨rfl, rfl⟩
  | cons i rest =>
    rw [prepareFor_cons] at h
    rcases s.checkLengths_cases i.2.length (i :: rest) with ⟨⟨a, b, hc⟩, -⟩ | ⟨hc, hall, hfits⟩
    · rw [hc] at h
      cases h
    · rw [hc] at h
      cases h
      exact Or.inr ⟨i.2.length, hall, hfits, rfl⟩

/-- **書き込みが断られるのは、空でないベクトルの長さが揃わないか、決まった長さと違うときに限り、
断られた書き込みは何も変えない。** 保存先がまだ空でも、入れ替えで消すはずのファイルがあっても同じである。 -/
theorem rejected_writes (s : Store) (replaced : Option String) (chunks : List Chunk) :
    (s.write replaced chunks = s.settled (match replaced with
      | none => s.insert chunks
      | some path => s.replaceFile path chunks))
    ∧ ((∃ a b, (s.write replaced chunks).1 = .error (.schemaMismatch a b))
      ↔ s.Mismatched (widths chunks))
    ∧ ∀ e, (s.write replaced chunks).1 = .error e →
      (∃ a b, e = .schemaMismatch a b) ∧ (s.write replaced chunks).2 = s := by
  refine ⟨s.write_eq replaced chunks, ?_⟩
  have hprep := s.prepareFor_cases (storable chunks)
  rw [widths_storable] at hprep
  rcases hprep with ⟨⟨a, b, hprep⟩, hodd⟩ | ⟨⟨u, hprep⟩, heven⟩
  · rcases s.write_cases replaced chunks with ⟨e, he, hwrite⟩ | ⟨u, hu, -⟩
    · cases hprep.symm.trans he
      rw [hwrite]
      refine ⟨⟨fun _ => hodd, fun _ => ⟨a, b, rfl⟩⟩, ?_⟩
      rintro e ⟨⟩
      exact ⟨⟨a, b, rfl⟩, rfl⟩
    · cases hprep.symm.trans hu
  · rcases s.write_cases replaced chunks with ⟨e, he, -⟩ | ⟨u, -, hwrite⟩
    · cases hprep.symm.trans he
    · rw [hwrite]
      refine ⟨⟨?_, fun h => (heven h).elim⟩, ?_⟩
      · rintro ⟨a, b, ⟨⟩⟩
      · rintro e ⟨⟩

/-- 長さ二のベクトルの付いた一行だけの断片。 -/
def wide : Chunk :=
  { Chunk.ofSpan "a.rs" 1 1 "fn a() {}" .function "rust" 0 with vector := some [1.0, 0.0] }

/-- 長さ一のベクトルの付いた、`wide` とは別の名前の断片。 -/
def narrow : Chunk :=
  { Chunk.ofSpan "a.rs" 2 2 "fn b() {}" .function "rust" 1 with vector := some [1.0] }

/-- 揃わない断片での入れ替えは断られ、先に保存した行は消えない。 -/
theorem rejected_writes_replacement :
    ((Store.empty true).write none [wide]).2.rows.length = 1
    ∧ (((Store.empty true).write none [wide]).2.write (some "a.rs") [narrow, wide]).2
      = ((Store.empty true).write none [wide]).2 := by
  have hodd : ((Store.empty true).write none [wide]).2.Mismatched (widths [narrow, wide]) :=
    Or.inl ⟨1, List.mem_cons_self, 2, List.mem_cons_of_mem 1 List.mem_cons_self, by decide⟩
  obtain ⟨-, hiff, hrejected⟩ := rejected_writes ((Store.empty true).write none [wide]).2
    (some "a.rs") [narrow, wide]
  obtain ⟨a, b, h⟩ := hiff.mpr hodd
  exact ⟨rfl, (hrejected _ h).2⟩

end CodeSearch.Store
