import CodeSearch.Proofs.Chunking.Naming
import CodeSearch.Proofs.Store.Columns
import CodeSearch.Store

/-!
# ファイルごとに見た保存先

保存先の操作を、ファイルの行（`rowsOf`）と記録（`hash?`）への働きとして述べる。
名前がパスと範囲から決まる断片だけを持つ保存先（`Canonical`）では、別のファイルの断片と
名前がぶつからない。だからファイルの入れ替えは、そのファイルの行と記録だけを変える。

* `rowsOf_replaceFile` — 入れ替えた後の行は、渡した断片のうちベクトルのあるものである
* `untouched_replaceFile` — 別のファイルの行と記録は変わらない
* `replaceFile_fits` — 長さの合うベクトルなら、入れ替えは断られない
-/

namespace CodeSearch

namespace Chunk

/-- ベクトルを外した断片。 -/
def bare (c : Chunk) : Chunk := { c with vector := none }

/-- 名前がパスと範囲から決まること。 -/
def Canonical (c : Chunk) : Prop := c.id = chunkId c.path c.firstLine c.lastLine

theorem bare_of_vector_none {c : Chunk} (h : c.vector = none) : c.bare = c := by
  unfold bare
  rw [← h]

theorem Canonical.path_eq {c d : Chunk} (hc : c.Canonical) (hd : d.Canonical) (h : c.id = d.id) :
    c.path = d.path := by
  rw [hc, hd] at h
  exact (chunkId_inj h).1

end Chunk

/-- 行の中身。断片とベクトルの組である。 -/
def Row.content (r : Row) : Chunk × Vec := (r.chunk, r.vector)

/-- 書いた行の中身は、保存した断片とそのベクトルである。 -/
theorem Row.content_ofChunk (id : Nat) (c : Chunk) (v : Vec) :
    (ofChunk id c v).content = (c.stored, v) := by
  rw [content, chunk_ofChunk, vector_ofChunk]

namespace Store

/-! ## 名前で引く列 -/

variable {β : Type}

theorem lookup_filter_ne {p q : String} (h : q ≠ p) (es : List (String × β)) :
    (es.filter fun e => e.1 != p).lookup q = es.lookup q := by
  induction es with
  | nil => rfl
  | cons e es ih =>
    by_cases he : e.1 = p
    · have hq : (q == e.1) = false := by simpa [he] using h
      rw [List.filter_cons_of_neg (by simp [he]), ih, List.lookup_cons, hq]
    · rw [List.filter_cons_of_pos (by simp [he]), List.lookup_cons, List.lookup_cons, ih]

theorem lookup_filter_self (p : String) (es : List (String × β)) :
    (es.filter fun e => e.1 != p).lookup p = none := by
  rw [List.lookup_eq_none_iff]
  intro e he
  have hne : e.1 ≠ p := by simpa using (List.mem_filter.mp he).2
  simpa using hne.symm

/-! ## ファイルの行と記録 -/

/-- ファイルの行。番号の順に並ぶ。 -/
def rowsOf (s : Store) (path : String) : List Row := s.rows.filter (inFile path)

/-- どの行の断片も、名前がパスと範囲から決まること。 -/
def Canonical (s : Store) : Prop := ∀ r ∈ s.rows, r.chunk.Canonical

/-- ファイルの行も記録も、`s` と `t` で同じであること。 -/
structure Untouched (path : String) (s t : Store) : Prop where
  rowsOf_eq : t.rowsOf path = s.rowsOf path
  hash?_eq : t.hash? path = s.hash? path

theorem Untouched.refl (path : String) (s : Store) : Untouched path s s := ⟨rfl, rfl⟩

theorem Untouched.trans {path : String} {s t u : Store} (h : Untouched path s t)
    (h' : Untouched path t u) : Untouched path s u :=
  ⟨h'.rowsOf_eq.trans h.rowsOf_eq, h'.hash?_eq.trans h.hash?_eq⟩

/-- ファイルの行も記録もないこと。 -/
structure Absent (path : String) (s : Store) : Prop where
  rowsOf_eq : s.rowsOf path = []
  hash?_eq : s.hash? path = none

theorem Absent.untouched {path : String} {s t : Store} (h : Absent path s)
    (hu : Untouched path s t) : Absent path t :=
  ⟨hu.rowsOf_eq.trans h.rowsOf_eq, hu.hash?_eq.trans h.hash?_eq⟩

/-- 一覧にあるのは、行か記録のあるファイルである。 -/
theorem mem_files_iff {s : Store} {path : String} :
    path ∈ s.files ↔ path ∈ s.hashes.map (·.1) ∨ path ∈ s.rows.map (·.path) := by
  unfold files
  rw [(stableSort_perm _ _).mem_iff, List.mem_eraseDups, List.mem_append]

/-- 一覧にないファイルには、行も記録もない。 -/
theorem absent_of_notMem_files {s : Store} {path : String} (h : path ∉ s.files) :
    Absent path s := by
  rw [mem_files_iff, not_or] at h
  refine ⟨?_, ?_⟩
  · unfold rowsOf
    rw [List.filter_eq_nil_iff]
    intro r hr hin
    have hpath : r.path = path := by simpa [inFile] using hin
    exact h.2 (List.mem_map.mpr ⟨r, hr, hpath⟩)
  · unfold hash?
    rw [List.lookup_eq_none_iff]
    intro e he
    have hne : path ≠ e.1 := fun heq => h.1 (List.mem_map.mpr ⟨e, he, heq.symm⟩)
    simpa using hne

/-- 行も記録もないファイルは、一覧にない。 -/
theorem Absent.notMem_files {s : Store} {path : String} (h : Absent path s) : path ∉ s.files := by
  intro hin
  rcases mem_files_iff.mp hin with hin | hin
  · obtain ⟨entry, hentry, rfl⟩ := List.mem_map.mp hin
    simpa using List.lookup_eq_none_iff.mp h.hash?_eq entry hentry
  · obtain ⟨row, hrow, rfl⟩ := List.mem_map.mp hin
    simpa [inFile] using List.filter_eq_nil_iff.mp h.rowsOf_eq row hrow

/-- 決まった長さがあるなら、それは `n` であること。 -/
def Fits (s : Store) (n : Nat) : Prop := ∀ d, s.dimensions = some d → d = n

/-! ## 行を足す -/

@[simp] theorem hashes_put (s : Store) (c : Chunk) (v : Vec) : (s.put c v).hashes = s.hashes := by
  unfold put
  split <;> rfl

@[simp] theorem dimensions_put (s : Store) (c : Chunk) (v : Vec) :
    (s.put c v).dimensions = s.dimensions := by
  unfold put
  split <;> rfl

@[simp] theorem hashes_putAll (items : List (Chunk × Vec)) : ∀ (s : Store),
    (s.putAll items).hashes = s.hashes := by
  induction items with
  | nil => exact fun _ => rfl
  | cons i items ih => exact fun s => (ih (s.put i.1 i.2)).trans (hashes_put s i.1 i.2)

@[simp] theorem dimensions_putAll (items : List (Chunk × Vec)) : ∀ (s : Store),
    (s.putAll items).dimensions = s.dimensions := by
  induction items with
  | nil => exact fun _ => rfl
  | cons i items ih => exact fun s => (ih (s.put i.1 i.2)).trans (dimensions_put s i.1 i.2)

/-- 同じ名前の行がなければ、保存は行を足す。 -/
theorem put_of_fresh {s : Store} {c : Chunk} (h : ∀ r ∈ s.rows, r.chunk.id ≠ c.id) (v : Vec) :
    s.put c v = s.addRow c v := by
  unfold put
  have hnone : s.rows.find? (fun r => r.name == c.id) = none := by
    rw [List.find?_eq_none]
    intro r hr
    have hne : r.name ≠ c.id := h r hr
    simpa using hne
  rw [hnone]

/-- 名前がどの行とも、互いにも違う断片は、順に新しい番号の行になる。 -/
theorem putAll_of_fresh : ∀ (items : List (Chunk × Vec)) (s : Store),
    (∀ i ∈ items, ∀ r ∈ s.rows, r.chunk.id ≠ i.1.id) → (items.map (·.1.id)).Nodup →
    ∃ added, (s.putAll items).rows = s.rows ++ added
      ∧ added.map Row.content = items.map (fun i => (i.1.stored, i.2))
      ∧ ∀ r ∈ added, s.lastId < r.id
  | [], s, _, _ => ⟨[], by simp [putAll], rfl, nofun⟩
  | i :: items, s, hfresh, hnodup => by
    obtain ⟨hi, hrest⟩ := List.nodup_cons.mp hnodup
    have hput := put_of_fresh (hfresh i List.mem_cons_self) i.2
    obtain ⟨added, hrows, hcontent, hnew⟩ := putAll_of_fresh items (s.addRow i.1 i.2) (by
      intro j hj r hr
      rcases List.mem_append.mp hr with hr | hr
      · exact hfresh j (List.mem_cons_of_mem i hj) r hr
      · rw [List.mem_singleton.mp hr]
        intro heq
        exact hi (List.mem_map.mpr ⟨j, hj, heq.symm⟩)) hrest
    refine ⟨.ofChunk (s.lastId + 1) i.1 i.2 :: added, ?_, ?_, ?_⟩
    · show ((s.put i.1 i.2).putAll items).rows = _
      rw [hput, hrows, addRow, List.append_assoc]
      rfl
    · rw [List.map_cons, List.map_cons, hcontent, Row.content_ofChunk]
    · intro r hr
      rcases List.mem_cons.mp hr with rfl | hr
      · exact Nat.lt_succ_self s.lastId
      · exact Nat.lt_of_succ_lt (hnew r hr)

theorem lastId_le_putAll : ∀ (items : List (Chunk × Vec)) (s : Store),
    s.lastId ≤ (s.putAll items).lastId
  | [], _ => Nat.le_refl _
  | i :: items, s => by
    have hput : s.lastId ≤ (s.put i.1 i.2).lastId := by
      unfold put
      split
      · exact Nat.le_refl _
      · exact Nat.le_succ _
    exact Nat.le_trans hput (lastId_le_putAll items (s.put i.1 i.2))

theorem Canonical.put {s : Store} (h : s.Canonical) {c : Chunk} (hc : c.Canonical) (v : Vec) :
    (s.put c v).Canonical := by
  unfold Store.put
  split
  · intro x hx
    obtain ⟨y, hy, rfl⟩ := List.mem_map.mp hx
    split
    · exact hc
    · exact h y hy
  · intro x hx
    rcases List.mem_append.mp hx with hx | hx
    · exact h x hx
    · rw [List.mem_singleton.mp hx]
      exact hc

theorem Canonical.putAll : ∀ {items : List (Chunk × Vec)} {s : Store}, s.Canonical →
    (∀ i ∈ items, i.1.Canonical) → (s.putAll items).Canonical
  | [], _, h, _ => h
  | i :: items, s, h, hi => by
    have hput := h.put (hi i List.mem_cons_self) i.2
    exact hput.putAll fun j hj => hi j (List.mem_cons_of_mem i hj)

/-! ## ファイルを消す -/

theorem absent_dropFile (s : Store) (path : String) : Absent path (s.dropFile path) where
  rowsOf_eq := by
    unfold rowsOf dropFile
    rw [List.filter_filter, List.filter_eq_nil_iff]
    intro r _
    simp
  hash?_eq := lookup_filter_self path s.hashes

theorem untouched_dropFile {p q : String} (h : q ≠ p) (s : Store) :
    Untouched q s (s.dropFile p) where
  rowsOf_eq := by
    unfold rowsOf dropFile
    rw [List.filter_filter]
    refine List.filter_congr fun r _ => ?_
    unfold inFile
    by_cases hq : r.path = q
    · simp [hq, h]
    · simp [hq]
  hash?_eq := lookup_filter_ne h s.hashes

theorem Canonical.dropFile {s : Store} (h : s.Canonical) (path : String) :
    (s.dropFile path).Canonical :=
  fun r hr => h r (List.mem_filter.mp hr).1

/-- 列のファイルを順に消す。 -/
def dropFiles (s : Store) (paths : List String) : Store :=
  paths.foldl (fun st path => (st.deleteFile path).2) s

theorem untouched_dropFiles {q : String} : ∀ {paths : List String} (s : Store), q ∉ paths →
    Untouched q s (s.dropFiles paths)
  | [], s, _ => .refl q s
  | p :: paths, s, h => by
    rw [List.mem_cons, not_or] at h
    exact (untouched_dropFile h.1 s).trans (untouched_dropFiles (s.dropFile p) h.2)

theorem absent_dropFiles {q : String} : ∀ {paths : List String} (s : Store), q ∈ paths →
    Absent q (s.dropFiles paths)
  | p :: paths, s, h => by
    by_cases hq : q ∈ paths
    · exact absent_dropFiles (s.dropFile p) hq
    · have hp : q = p := (List.mem_cons.mp h).resolve_right hq
      rw [hp] at hq ⊢
      exact (absent_dropFile s p).untouched (untouched_dropFiles (s.dropFile p) hq)

theorem Canonical.dropFiles : ∀ {s : Store}, s.Canonical → ∀ paths : List String,
    (s.dropFiles paths).Canonical
  | _, h, [] => h
  | _, h, p :: paths => Canonical.dropFiles (h.dropFile p) paths

/-- ファイルを消しても、行は減るだけで、番号は変わらない。 -/
theorem dropFiles_frame : ∀ (paths : List String) (s : Store),
    (s.dropFiles paths).rows.Sublist s.rows ∧ (s.dropFiles paths).lastId = s.lastId
  | [], s => ⟨.refl _, rfl⟩
  | p :: paths, s => by
    obtain ⟨hrows, hlast⟩ := dropFiles_frame paths (s.dropFile p)
    exact ⟨hrows.trans List.filter_sublist, hlast⟩

theorem absent_clear (s : Store) (path : String) : Absent path s.clear := ⟨rfl, rfl⟩

theorem canonical_clear (s : Store) : s.clear.Canonical := by
  intro r hr
  cases hr

/-! ## ファイルを入れ替える -/

theorem mem_storable {chunks : List Chunk} {i : Chunk × Vec} (h : i ∈ storable chunks) :
    i.1 ∈ chunks ∧ i.1.vector = some i.2 ∧ i.2 ≠ [] := by
  unfold storable at h
  obtain ⟨c, hc, hi⟩ := List.mem_filterMap.mp h
  obtain ⟨v, hv, rfl⟩ := Option.map_eq_some_iff.mp hi
  obtain ⟨hvec, hne⟩ := Option.filter_eq_some_iff.mp hv
  exact ⟨hc, hvec, by simpa using hne⟩

theorem storable_ids_sublist (chunks : List Chunk) :
    ((storable chunks).map (·.1.id)).Sublist (chunks.map (·.id)) := by
  induction chunks with
  | nil => exact List.Sublist.slnil
  | cons c chunks ih =>
    unfold storable at ih ⊢
    rw [List.filterMap_cons]
    split
    · exact ih.cons _
    · next i hi =>
      obtain ⟨v, -, rfl⟩ := Option.map_eq_some_iff.mp hi
      exact ih.cons_cons _

/-- 書き込む用意は、行も記録も番号も変えない。 -/
theorem prepareFor_frame {s t : Store} {items : List (Chunk × Vec)}
    (h : s.prepareFor items = .ok t) :
    t.rows = s.rows ∧ t.hashes = s.hashes ∧ t.lastId = s.lastId := by
  unfold prepareFor at h
  split at h
  · cases h
    exact ⟨rfl, rfl, rfl⟩
  · next c v rest =>
    cases hc : s.checkLengths v.length ((c, v) :: rest) with
    | error e => rw [hc] at h; cases h
    | ok u =>
      rw [hc] at h
      cases h
      unfold prepare
      split <;> exact ⟨rfl, rfl, rfl⟩

/-- 入れ替えは、ファイルを消してから断片を保存することである。 -/
theorem replaceFile_eq_ok {s t : Store} {path : String} {chunks : List Chunk} {n : Nat}
    (h : s.replaceFile path chunks = .ok (n, t)) :
    n = (storable chunks).length ∧ ∃ u : Store, s.prepareFor (storable chunks) = .ok u
      ∧ u.rows = s.rows ∧ u.hashes = s.hashes ∧ u.lastId = s.lastId
      ∧ t = (u.dropFile path).putAll (storable chunks) := by
  unfold replaceFile at h
  simp only [] at h
  cases hu : s.prepareFor (storable chunks) with
  | error e => rw [hu] at h; cases h
  | ok u =>
    rw [hu] at h
    cases h
    obtain ⟨hrows, hhashes, hlast⟩ := prepareFor_frame hu
    exact ⟨rfl, u, rfl, hrows, hhashes, hlast, rfl⟩

section Replace

variable {s t : Store} {path : String} {chunks : List Chunk} {n : Nat}

theorem Canonical.replaceFile (hs : s.Canonical) (hcan : ∀ c ∈ chunks, c.Canonical)
    (h : s.replaceFile path chunks = .ok (n, t)) : t.Canonical := by
  obtain ⟨-, u, -, hrows, -, -, rfl⟩ := replaceFile_eq_ok h
  have hu : u.Canonical := by
    intro r hr
    rw [hrows] at hr
    exact hs r hr
  exact (hu.dropFile path).putAll fun i hi => hcan i.1 (mem_storable hi).1

/-- 入れ替えた後の行。元の行からファイルのものを除き、断片を新しい番号で後ろに足したものである。 -/
theorem rows_replaceFile (hs : s.Canonical) (hpath : ∀ c ∈ chunks, c.path = path)
    (hcan : ∀ c ∈ chunks, c.Canonical) (hids : (chunks.map (·.id)).Nodup)
    (h : s.replaceFile path chunks = .ok (n, t)) :
    ∃ added, t.rows = (s.dropFile path).rows ++ added
      ∧ added.map Row.content = (storable chunks).map (fun i => (i.1.stored, i.2))
      ∧ ∀ r ∈ added, s.lastId < r.id := by
  obtain ⟨-, u, -, hrows, -, hlast, rfl⟩ := replaceFile_eq_ok h
  have hdrop : (u.dropFile path).rows = (s.dropFile path).rows := by
    unfold dropFile
    rw [hrows]
  rw [← hdrop, ← hlast]
  refine putAll_of_fresh _ _ ?_ (hids.sublist (storable_ids_sublist chunks))
  intro i hi r hr heq
  obtain ⟨hc, -, -⟩ := mem_storable hi
  rw [hdrop] at hr
  -- 名前が同じなら同じファイルの行だが、それはもう消えている
  have hsame := (hs.dropFile path r hr).path_eq (hcan i.1 hc) heq
  have hother : r.path ≠ path := by
    have := (List.mem_filter.mp hr).2
    simpa [inFile] using this
  exact hother (hsame.trans (hpath i.1 hc))

/-- 足した行は、どれも入れ替えたファイルのものである。 -/
theorem added_path {added : List Row} (hpath : ∀ c ∈ chunks, c.path = path)
    (hcontent : added.map Row.content = (storable chunks).map fun i => (i.1.stored, i.2)) :
    ∀ r ∈ added, r.path = path := by
  intro r hr
  have hm : r.content ∈ (storable chunks).map fun i => (i.1.stored, i.2) :=
    hcontent ▸ List.mem_map_of_mem hr
  obtain ⟨i, hi, he⟩ := List.mem_map.mp hm
  obtain ⟨hc, -, -⟩ := mem_storable hi
  have hchunk : r.chunk = i.1.stored := (congrArg Prod.fst he).symm
  exact (congrArg Chunk.path hchunk).trans (hpath i.1 hc)

/-- **入れ替えた後のファイルの行は、渡した断片のうち空でないベクトルのあるものである。** -/
theorem rowsOf_replaceFile (hs : s.Canonical) (hpath : ∀ c ∈ chunks, c.path = path)
    (hcan : ∀ c ∈ chunks, c.Canonical) (hids : (chunks.map (·.id)).Nodup)
    (h : s.replaceFile path chunks = .ok (n, t)) :
    (t.rowsOf path).map Row.content = (storable chunks).map fun i => (i.1.stored, i.2) := by
  obtain ⟨added, hrows, hcontent, -⟩ := rows_replaceFile hs hpath hcan hids h
  have hall : added.filter (inFile path) = added := by
    refine List.filter_eq_self.mpr fun r hr => ?_
    simpa [inFile] using added_path hpath hcontent r hr
  have hnone : (s.dropFile path).rows.filter (inFile path) = [] := (absent_dropFile s path).rowsOf_eq
  unfold rowsOf
  rw [hrows, List.filter_append, hnone, hall, List.nil_append]
  exact hcontent

/-- **入れ替えは、別のファイルの行にも記録にも触らない。** -/
theorem untouched_replaceFile {q : String} (hq : q ≠ path) (hs : s.Canonical)
    (hpath : ∀ c ∈ chunks, c.path = path) (hcan : ∀ c ∈ chunks, c.Canonical)
    (hids : (chunks.map (·.id)).Nodup) (h : s.replaceFile path chunks = .ok (n, t)) :
    Untouched q s t := by
  obtain ⟨added, hrows, hcontent, -⟩ := rows_replaceFile hs hpath hcan hids h
  obtain ⟨-, u, -, -, hhashes, -, rfl⟩ := replaceFile_eq_ok h
  have hnone : added.filter (inFile q) = [] := by
    refine List.filter_eq_nil_iff.mpr fun r hr => ?_
    simpa [inFile, added_path hpath hcontent r hr] using hq.symm
  refine ⟨?_, ?_⟩
  · unfold rowsOf
    rw [hrows, List.filter_append, hnone, List.append_nil]
    exact (untouched_dropFile hq s).rowsOf_eq
  · unfold hash?
    rw [hashes_putAll]
    show (u.hashes.filter fun e => e.1 != path).lookup q = _
    rw [hhashes]
    exact lookup_filter_ne hq s.hashes

/-- 入れ替えたファイルの記録は消える。 -/
theorem hash?_replaceFile (h : s.replaceFile path chunks = .ok (n, t)) : t.hash? path = none := by
  obtain ⟨-, u, -, -, -, -, rfl⟩ := replaceFile_eq_ok h
  unfold hash?
  rw [hashes_putAll]
  exact lookup_filter_self path u.hashes

/-- 入れ替えても、番号は戻らない。 -/
theorem lastId_le_replaceFile (h : s.replaceFile path chunks = .ok (n, t)) :
    s.lastId ≤ t.lastId := by
  obtain ⟨-, u, -, -, -, hlast, rfl⟩ := replaceFile_eq_ok h
  rw [← hlast]
  exact lastId_le_putAll (storable chunks) (u.dropFile path)

end Replace

/-- **決まった長さに合うベクトルだけなら、入れ替えは断られない。** その後も同じ長さに合う。 -/
theorem replaceFile_fits {s : Store} {chunks : List Chunk} {n : Nat} (hs : s.Fits n)
    (hlen : ∀ c ∈ chunks, ∀ v, c.vector = some v → v.length = n) (path : String) :
    ∃ t, s.replaceFile path chunks = .ok ((storable chunks).length, t) ∧ t.Fits n := by
  have hitems : ∀ i ∈ storable chunks, i.2.length = n := by
    intro i hi
    obtain ⟨hc, hv, -⟩ := mem_storable hi
    exact hlen i.1 hc i.2 hv
  have hprep : ∃ u : Store, s.prepareFor (storable chunks) = .ok u ∧ u.Fits n := by
    generalize storable chunks = items at hitems
    unfold prepareFor
    split
    · exact ⟨s, rfl, hs⟩
    · next c v rest =>
      have hv : v.length = n := hitems (c, v) List.mem_cons_self
      have hodd : ((c, v) :: rest).find? (fun i => i.2.length != v.length) = none := by
        rw [List.find?_eq_none]
        intro i hi
        simpa [hv] using hitems i hi
      unfold checkLengths prepare
      rw [hodd]
      cases hd : s.dimensions with
      | none =>
        refine ⟨_, rfl, ?_⟩
        intro e he
        rw [← hv]
        exact (Option.some.inj he).symm
      | some d =>
        simp only []
        rw [if_pos ((hs d hd).trans hv.symm)]
        exact ⟨s, rfl, hs⟩
  obtain ⟨u, hu, hfit⟩ := hprep
  refine ⟨(u.dropFile path).putAll (storable chunks), ?_, ?_⟩
  · unfold replaceFile
    simp only []
    rw [hu]
    rfl
  · intro d hd
    rw [dimensions_putAll] at hd
    exact hfit d hd

/-! ## 記録する -/

theorem hash?_recordFile_self (s : Store) (path hash : String) :
    (s.recordFile path hash).hash? path = some hash := by
  have hnone := lookup_filter_self path s.hashes
  unfold hash? recordFile
  rw [List.lookup_append, hnone]
  simp

theorem untouched_recordFile {p q : String} (h : q ≠ p) (s : Store) (hash : String) :
    Untouched q s (s.recordFile p hash) where
  rowsOf_eq := rfl
  hash?_eq := by
    have hne : (q == p) = false := by simpa using h
    unfold hash? recordFile
    rw [List.lookup_append, lookup_filter_ne h]
    simp [List.lookup_cons, hne]

end Store

end CodeSearch
