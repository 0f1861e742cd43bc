import CodeSearch.Engine
import CodeSearch.Proofs.Embedding.Accounting

/-!
# 成果の保存

埋め込みの成果をファイルごとに保存する段では、ファイルの行は前のままか、
そのファイルの成果の全部に入れ替わるかのどちらかである。
ベクトルの長さが揃っていて、保存先の決まった長さとも合うなら、保存が断られることはない。

* `storeFile_spec` — 一つのファイルの保存
* `storeFiles_spec` — ファイルの列の保存
* `checkDimensions_fits` — 保存の前の確かめが通れば、長さは保存先に合う
-/

namespace CodeSearch

/-- 保存される中身。ベクトルを外した断片と、そのベクトルである。 -/
def Chunk.content (c : Chunk) : Chunk × Vec := (c.bare, c.vector.getD [])

namespace Engine

/-! ## 保存を待つ断片 -/

/-- 保存を待つ断片の条件。名前は互いに違い、時刻に端数はなく、長さ `n` の空でないベクトルが
付いている。 -/
structure Ready (n : Nat) (waiting : List Chunk) : Prop where
  canonical : ∀ c ∈ waiting, c.Canonical
  whole : ∀ c ∈ waiting, Timestamp.ofMillis (Timestamp.millis c.createdAt) = c.createdAt
  ids_nodup : (waiting.map (·.id)).Nodup
  carries : ∀ c ∈ waiting, ∃ v, c.vector = some v ∧ v ≠ [] ∧ v.length = n

namespace Ready

variable {n : Nat} {waiting : List Chunk}

theorem filter (h : Ready n waiting) (p : Chunk → Bool) : Ready n (waiting.filter p) where
  canonical := fun c hc => h.canonical c (List.mem_filter.mp hc).1
  whole := fun c hc => h.whole c (List.mem_filter.mp hc).1
  ids_nodup := h.ids_nodup.sublist (List.filter_sublist.map _)
  carries := fun c hc => h.carries c (List.mem_filter.mp hc).1

theorem storable_eq (h : Ready n waiting) :
    Store.storable waiting = waiting.map fun c => (c, c.vector.getD []) := by
  have hcarries := h.carries
  clear h
  induction waiting with
  | nil => rfl
  | cons c cs ih =>
    obtain ⟨v, hv, hne, -⟩ := hcarries c List.mem_cons_self
    have hsome : (c.vector.filter fun v => !v.isEmpty) = some v := by
      rw [hv, Option.filter_some, if_pos (by simpa using hne)]
    have htail : Store.storable cs = cs.map fun c => (c, c.vector.getD []) :=
      ih fun d hd => hcarries d (List.mem_cons_of_mem c hd)
    unfold Store.storable at htail ⊢
    rw [List.filterMap_cons, hsome, List.map_cons, htail, hv]
    rfl

/-- 待っている断片は、どれもそのまま行になる。 -/
theorem storable_content (h : Ready n waiting) :
    ((Store.storable waiting).map fun i => (i.1.stored, i.2)) = waiting.map Chunk.content := by
  rw [h.storable_eq, List.map_map]
  refine List.map_congr_left fun c hc => ?_
  show (c.stored, c.vector.getD []) = (c.bare, c.vector.getD [])
  rw [Chunk.stored, h.whole c hc]
  rfl

theorem length_eq (h : Ready n waiting) : ∀ c ∈ waiting, ∀ v, c.vector = some v → v.length = n := by
  intro c hc v hv
  obtain ⟨w, hw, -, hlen⟩ := h.carries c hc
  rw [hv] at hw
  rw [Option.some.inj hw]
  exact hlen

end Ready

/-- 保存の前の確かめが通れば、待っている断片の長さは保存先に合う。 -/
theorem checkDimensions_fits {store : Store} {waiting : List Chunk} {n : Nat}
    (h : Ready n waiting) (hok : checkDimensions store waiting = .ok ()) :
    ∃ m, Ready m waiting ∧ store.Fits m := by
  cases waiting with
  | nil =>
    -- 保存するものがなければ、どの長さにも合う
    refine ⟨store.dimensions.getD 0, ⟨by simp, by simp, List.nodup_nil, by simp⟩, ?_⟩
    intro d hd
    rw [hd]
    rfl
  | cons c cs =>
    refine ⟨n, h, ?_⟩
    intro d hd
    obtain ⟨v, hv, -, hlen⟩ := h.carries c List.mem_cons_self
    unfold checkDimensions at hok
    rw [hd, h.storable_eq, List.map_cons, List.head?_cons, hv] at hok
    simp only [Option.getD_some] at hok
    split at hok
    · next heq => exact heq.trans hlen
    · cases hok

/-! ## 一つのファイル -/

/-- ファイルの保存の前後。埋め込めた断片 `ready` と埋め込めなかった数を合わせても `count` に
足りなければ触らない。足りれば入れ替え、埋め込めないものがなければ記録する。 -/
def FileStored (count : Nat) (hash : Option String) (ready : List Chunk) (failures : Nat)
    (path : String) (s t : Store) : Prop :=
  if ready.length + failures < count then Store.Untouched path s t
  else (t.rowsOf path).map Row.content = ready.map Chunk.content
    ∧ t.hash? path = if failures = 0 then hash else none

namespace FileStored

variable {count failures : Nat} {hash : Option String} {ready : List Chunk} {path : String}
  {s t u : Store}

/-- 後からほかのファイルを保存しても、前後の関係は変わらない。 -/
theorem untouched_right (h : FileStored count hash ready failures path s t)
    (hu : Store.Untouched path t u) : FileStored count hash ready failures path s u := by
  unfold FileStored at h ⊢
  split
  · next hlt =>
    rw [if_pos hlt] at h
    exact h.trans hu
  · next hge =>
    rw [if_neg hge] at h
    rw [hu.rowsOf_eq, hu.hash?_eq]
    exact h

/-- 前にほかのファイルを保存していても、前後の関係は変わらない。 -/
theorem untouched_left (h : FileStored count hash ready failures path t u)
    (hs : Store.Untouched path s t) : FileStored count hash ready failures path s u := by
  unfold FileStored at h ⊢
  split
  · next hlt =>
    rw [if_pos hlt] at h
    exact hs.trans h
  · next hge =>
    rw [if_neg hge] at h
    exact h

end FileStored

variable (counts : List (String × Nat)) (hashes : List (String × String))
  (failed : List FailedChunk) (total : Nat) {n : Nat}

/-- ファイルの断片。 -/
def inPath (path : String) (c : Chunk) : Bool := c.path == path

/-- 入れ替えた後、埋め込めないものがなければ要約を記録した保存先。 -/
def recorded (t : Store) (path : String) : Store :=
  if failuresIn failed path = 0 then ((lastOf hashes path).map (t.recordFile path)).getD t else t

/-- 記録は行も長さも番号も変えない。 -/
theorem recorded_frame (t : Store) (path : String) :
    (recorded hashes failed t path).rows = t.rows
    ∧ (recorded hashes failed t path).dimensions = t.dimensions
    ∧ (recorded hashes failed t path).lastId = t.lastId := by
  unfold recorded
  split
  · cases lastOf hashes path <;> exact ⟨rfl, rfl, rfl⟩
  · exact ⟨rfl, rfl, rfl⟩

theorem hash?_recorded {t : Store} {path : String} (h : t.hash? path = none) :
    (recorded hashes failed t path).hash? path
      = if failuresIn failed path = 0 then lastOf hashes path else none := by
  unfold recorded
  split
  · cases lastOf hashes path with
    | none => exact h
    | some hash => exact Store.hash?_recordFile_self t path hash
  · exact h

theorem untouched_recorded {path q : String} (h : q ≠ path) (t : Store) :
    Store.Untouched q t (recorded hashes failed t path) := by
  unfold recorded
  split
  · cases lastOf hashes path with
    | none => exact .refl q t
    | some hash => exact Store.untouched_recordFile h t hash
  · exact .refl q t

/-- 保存の途中で保たれること。 -/
structure Storing.Sound (n : Nat) (st : Storing) : Prop where
  canonical : st.store.Canonical
  fits : st.store.Fits n
  ready : Ready n st.waiting

/-- 一つのファイルを保存すると、断片が出揃っていなければ何も変わらず、出揃っていれば行を入れ替えて
記録し、書いた数を加える。 -/
theorem storeFile_cases {st st' : Storing} {position : Nat} {path : String}
    (h : storeFile counts hashes failed total st position path = .ok st') :
    st'.waiting = st.waiting.filter (fun c => c.path != path)
    ∧ (((st.waiting.filter (inPath path)).length + failuresIn failed path
        < (lastOf counts path).getD 0 ∧ st'.store = st.store ∧ st'.stored = st.stored)
      ∨ (¬(st.waiting.filter (inPath path)).length + failuresIn failed path
        < (lastOf counts path).getD 0
        ∧ ∃ n t, st.store.replaceFile path (st.waiting.filter (inPath path)) = .ok (n, t)
          ∧ st'.store = recorded hashes failed t path ∧ st'.stored = st.stored + n)) := by
  unfold storeFile at h
  simp only [] at h
  split at h
  · next hlt =>
    cases h
    exact ⟨rfl, Or.inl ⟨hlt, rfl, rfl⟩⟩
  · next hge =>
    cases ht : st.store.replaceFile path (st.waiting.filter (inPath path)) with
    | error e =>
      have hbad : (Except.error e).map _ = Except.ok st' := ht ▸ h
      cases hbad
    | ok nt =>
      have hok : (Except.ok nt).map _ = Except.ok st' := ht ▸ h
      cases hok
      exact ⟨rfl, Or.inr ⟨hge, nt.1, nt.2, rfl, rfl, rfl⟩⟩

/-- 待っている断片での入れ替えは断られない。行は断片の全部になり、記録は消え、
ほかのファイルには触らない。 -/
theorem Storing.Sound.replaceFile {st : Storing} (h : st.Sound n) (path : String) :
    ∃ m t, st.store.replaceFile path (st.waiting.filter (inPath path)) = .ok (m, t)
      ∧ t.Canonical ∧ t.Fits n
      ∧ (t.rowsOf path).map Row.content = (st.waiting.filter (inPath path)).map Chunk.content
      ∧ t.hash? path = none ∧ ∀ q, q ≠ path → Store.Untouched q st.store t := by
  have hready := h.ready.filter (inPath path)
  have hpath : ∀ c ∈ st.waiting.filter (inPath path), c.path = path := by
    intro c hc
    simpa [inPath] using (List.mem_filter.mp hc).2
  obtain ⟨t, ht, hfit⟩ := Store.replaceFile_fits h.fits hready.length_eq path
  refine ⟨_, t, ht, h.canonical.replaceFile hready.canonical ht, hfit, ?_,
    Store.hash?_replaceFile ht, fun q hq => ?_⟩
  · rw [← hready.storable_content]
    exact Store.rowsOf_replaceFile h.canonical hpath hready.canonical hready.ids_nodup ht
  · exact Store.untouched_replaceFile hq h.canonical hpath hready.canonical hready.ids_nodup ht

/-- 待っている断片での入れ替えは、ファイルの行を除いた後ろに、断片を一つずつ新しい番号で書く。 -/
theorem Storing.Sound.rows_replaceFile {st : Storing} (h : st.Sound n) {path : String} {m : Nat}
    {t : Store} (ht : st.store.replaceFile path (st.waiting.filter (inPath path)) = .ok (m, t)) :
    m = (st.waiting.filter (inPath path)).length
    ∧ ∃ added, t.rows = (st.store.dropFile path).rows ++ added
      ∧ added.map Row.content = (st.waiting.filter (inPath path)).map Chunk.content
      ∧ ∀ r ∈ added, r.path = path ∧ st.store.lastId < r.id := by
  have hready := h.ready.filter (inPath path)
  have hpath : ∀ c ∈ st.waiting.filter (inPath path), c.path = path := by
    intro c hc
    simpa [inPath] using (List.mem_filter.mp hc).2
  obtain ⟨added, hrows, hcontent, hnew⟩ := Store.rows_replaceFile h.canonical hpath
    hready.canonical hready.ids_nodup ht
  refine ⟨?_, added, hrows, ?_, fun r hr => ⟨Store.added_path hpath hcontent r hr, hnew r hr⟩⟩
  · rw [(Store.replaceFile_eq_ok ht).1, hready.storable_eq, List.length_map]
  · rw [← hready.storable_content]
    exact hcontent

/-- 一つのファイルの保存は断られず、そのファイルのほかには触らない。 -/
theorem storeFile_spec {st : Storing} (h : st.Sound n) (position : Nat) (path : String) :
    ∃ st', storeFile counts hashes failed total st position path = .ok st' ∧ st'.Sound n
      ∧ st'.waiting = st.waiting.filter (fun c => c.path != path)
      ∧ (∀ q, q ≠ path → Store.Untouched q st.store st'.store)
      ∧ FileStored ((lastOf counts path).getD 0) (lastOf hashes path)
        (st.waiting.filter (inPath path)) (failuresIn failed path) path st.store st'.store := by
  obtain ⟨m, t, ht, hcan, hfit, hcontent, hnone, hother⟩ := h.replaceFile path
  obtain ⟨st', hst'⟩ : ∃ st', storeFile counts hashes failed total st position path = .ok st' := by
    unfold storeFile
    by_cases hlt : (st.waiting.filter (inPath path)).length + failuresIn failed path
        < (lastOf counts path).getD 0
    · exact ⟨_, if_pos hlt⟩
    · exact ⟨_, (if_neg hlt).trans (congrArg (Except.map _) ht)⟩
  obtain ⟨hwaiting, hcases⟩ := storeFile_cases counts hashes failed total hst'
  have hready : Ready n st'.waiting := by
    rw [hwaiting]
    exact h.ready.filter _
  unfold FileStored
  rcases hcases with ⟨hlt, hstore, -⟩ | ⟨hge, m', t', ht', hstore, -⟩
  · -- 断片が出揃っていない
    refine ⟨st', hst', ⟨?_, ?_, hready⟩, hwaiting, fun q _ => ?_, ?_⟩
    · rw [hstore]
      exact h.canonical
    · rw [hstore]
      exact h.fits
    · rw [hstore]
      exact .refl q st.store
    · rw [if_pos hlt, hstore]
      exact .refl path st.store
  · obtain ⟨-, rfl⟩ := Prod.mk.inj (Except.ok.inj (ht.symm.trans ht'))
    obtain ⟨hrows, hdims, -⟩ := recorded_frame hashes failed t path
    refine ⟨st', hst', ⟨?_, ?_, hready⟩, hwaiting, fun q hq => ?_, ?_⟩
    · intro r hr
      rw [hstore, hrows] at hr
      exact hcan r hr
    · intro d hd
      rw [hstore, hdims] at hd
      exact hfit d hd
    · rw [hstore]
      exact (hother q hq).trans (untouched_recorded hashes failed hq t)
    · unfold Store.rowsOf
      rw [if_neg hge, hstore, hrows]
      exact ⟨hcontent, hash?_recorded hashes failed hnone⟩

/-! ## ファイルの列 -/

/-- 途中で断られても、保存先の名前はパスと範囲から決まる。パスが重なっていてもよい。 -/
theorem canonical_storeFiles : ∀ (files : List SourceFile) {st : Storing}, st.store.Canonical →
    (∀ c ∈ st.waiting, c.Canonical) → ∀ position : Nat,
    (storeFiles counts hashes failed total st position files).2.store.Canonical
  | [], _, h, _, _ => h
  | f :: fs, st, h, hw, position => by
    unfold storeFiles
    split
    · exact h
    · next st₁ hone =>
      obtain ⟨hwaiting, hcases⟩ := storeFile_cases counts hashes failed total hone
      have hready : ∀ c ∈ st.waiting.filter (inPath f.path), c.Canonical :=
        fun c hc => hw c (List.mem_filter.mp hc).1
      have hstore : st₁.store.Canonical := by
        rcases hcases with ⟨-, hstore, -⟩ | ⟨-, n, t, ht, hstore, -⟩
        · rw [hstore]
          exact h
        · intro r hr
          rw [hstore, (recorded_frame hashes failed t f.path).1] at hr
          exact h.replaceFile hready ht r hr
      refine canonical_storeFiles fs hstore (fun c hc => ?_) (position + 1)
      rw [hwaiting] at hc
      exact hw c (List.mem_filter.mp hc).1

/-- 別のファイルの断片を除いても、ファイルの断片は同じである。 -/
theorem filter_inPath_of_ne {p q : String} (h : q ≠ p) (cs : List Chunk) :
    (cs.filter fun c => c.path != p).filter (inPath q) = cs.filter (inPath q) := by
  rw [List.filter_filter]
  refine List.filter_congr fun c _ => ?_
  unfold inPath
  by_cases hq : c.path = q
  · simp [hq, h]
  · simp [hq]

/-- **ファイルの列の保存は断られず、どのファイルも前のままか、成果の全部に入れ替わる。** -/
theorem storeFiles_spec : ∀ {files : List SourceFile} {st : Storing}, st.Sound n →
    (files.map (·.path)).Nodup → ∀ position : Nat,
    ∃ st', storeFiles counts hashes failed total st position files = (.ok (), st') ∧ st'.Sound n
      ∧ (∀ q, q ∉ files.map (·.path) → Store.Untouched q st.store st'.store)
      ∧ ∀ f ∈ files, FileStored ((lastOf counts f.path).getD 0) (lastOf hashes f.path)
        (st.waiting.filter (inPath f.path)) (failuresIn failed f.path) f.path st.store st'.store
  | [], st, h, _, position => ⟨st, rfl, h, fun q _ => .refl q st.store, by simp⟩
  | f :: fs, st, h, hnodup, position => by
    obtain ⟨hf, hfs⟩ := List.nodup_cons.mp hnodup
    obtain ⟨st₁, hone, hsound₁, hwaiting, hother, hstored⟩ :=
      storeFile_spec counts hashes failed total h position f.path
    obtain ⟨st', hall, hsound, hrest, heach⟩ := storeFiles_spec hsound₁ hfs (position + 1)
    refine ⟨st', ?_, hsound, ?_, ?_⟩
    · unfold storeFiles
      rw [hone]
      exact hall
    · intro q hq
      rw [List.map_cons, List.mem_cons, not_or] at hq
      exact (hother q hq.1).trans (hrest q hq.2)
    · intro f' hf'
      rcases List.mem_cons.mp hf' with rfl | hf'
      · exact hstored.untouched_right (hrest _ hf)
      · have hne : f'.path ≠ f.path := by
          intro heq
          exact hf (List.mem_map.mpr ⟨f', hf', heq⟩)
        have hout := (heach f' hf').untouched_left (hother _ hne)
        rwa [hwaiting, filter_inPath_of_ne hne] at hout

end Engine

end CodeSearch
