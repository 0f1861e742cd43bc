import CodeSearch.Proofs.Store.Writing
import CodeSearch.Store.Search
import Mathlib.Data.List.Nodup

/-!
# 保存先の不変条件

空の保存先から操作を重ねて得られる保存先（`Reachable`）では、断片の名前に重なりがなく、行があれば
ベクトルの長さが決まっていて、どの行のベクトルもその長さである。だから、検索が受け付けた問い合わせと
長さの違う行はない。

* `Sound` — 保存先の不変条件。操作の一つずつが保つ（`Sound.apply`）
* `dimensions_apply` — 長さは書き込みで決まり、全消去で消え、ほかでは変わらない
* `reachable_representation` — 得られる保存先で成り立つことと、検索が行を飛ばさないこと
-/

namespace CodeSearch.Store

/-! ## 操作 -/

/-- 保存先を変える操作。 -/
inductive Operation where
  | insert (chunks : List Chunk)
  | replaceFile (path : String) (chunks : List Chunk)
  | deleteFile (path : String)
  | recordFile (path hash : String)
  | clear
  | reopen (lexical : Bool)

namespace Operation

/-- 操作の後の保存先。断られた書き込みの後の保存先も含む。 -/
def apply (s : Store) : Operation → Store
  | insert chunks => (s.write none chunks).2
  | replaceFile path chunks => (s.write (some path) chunks).2
  | deleteFile path => (s.deleteFile path).2
  | recordFile path hash => s.recordFile path hash
  | clear => s.clear
  | reopen lexical => s.reopen lexical

/-- 断片を書き込む操作か。 -/
def isWrite : Operation → Bool
  | insert _ | replaceFile _ _ => true
  | _ => false

end Operation

/-- 空の保存先から操作を重ねて得られること。 -/
inductive Reachable : Store → Prop
  | empty (lexical : Bool) : Reachable (.empty lexical)
  | step {s : Store} (h : Reachable s) (op : Operation) : Reachable (op.apply s)

/-- 行の番号は増えていき、断片の名前に重なりがなく、ベクトルはどれも決まった長さであること。 -/
structure Sound (s : Store) : Prop where
  /-- 番号の順に並ぶ。 -/
  ascending : (s.rows.map (·.id)).Pairwise (· < ·)
  /-- 使った番号は `lastId` までである。 -/
  bounded : ∀ r ∈ s.rows, r.id ≤ s.lastId
  /-- 断片の名前に重なりがない。 -/
  distinct : (s.rows.map (·.chunk.id)).Nodup
  /-- ベクトルは空でなく、長さが決まった長さに等しい。 -/
  shaped : ∀ r ∈ s.rows, r.vector ≠ [] ∧ s.dimensions = some r.vector.length

variable {s : Store}

/-! ## 行を足さない操作 -/

theorem sound_empty (lexical : Bool) : (empty lexical).Sound :=
  ⟨.nil, nofun, .nil, nofun⟩

theorem sound_clear (s : Store) : s.clear.Sound := ⟨.nil, nofun, .nil, nofun⟩

theorem Sound.reopen (h : s.Sound) (lexical : Bool) : (s.reopen lexical).Sound :=
  ⟨h.ascending, h.bounded, h.distinct, h.shaped⟩

theorem Sound.recordFile (h : s.Sound) (path hash : String) : (s.recordFile path hash).Sound :=
  ⟨h.ascending, h.bounded, h.distinct, h.shaped⟩

theorem Sound.dropFile (h : s.Sound) (path : String) : (s.dropFile path).Sound where
  ascending := h.ascending.sublist (List.filter_sublist.map _)
  bounded := fun r hr => h.bounded r (List.mem_filter.mp hr).1
  distinct := h.distinct.sublist (List.filter_sublist.map _)
  shaped := fun r hr => h.shaped r (List.mem_filter.mp hr).1

/-! ## 行を足す、入れ替える -/

/-- 番号が同じ行は同じ行である。 -/
theorem Sound.row_eq (h : s.Sound) {r x : Row} (hr : r ∈ s.rows) (hx : x ∈ s.rows)
    (hid : x.id = r.id) : x = r :=
  List.inj_on_of_nodup_map (h.ascending.imp Nat.ne_of_lt) hx hr hid

theorem Sound.addRow (h : s.Sound) {c : Chunk} {v : Vec} (hv : v ≠ [])
    (hd : s.dimensions = some v.length) (hfresh : ∀ r ∈ s.rows, r.chunk.id ≠ c.id) :
    (s.addRow c v).Sound where
  ascending := by
    show ((s.rows ++ [_]).map _).Pairwise _
    rw [List.map_append, List.pairwise_append]
    refine ⟨h.ascending, List.pairwise_singleton _ _, ?_⟩
    intro i hi j hj
    obtain ⟨r, hr, rfl⟩ := List.mem_map.mp hi
    rw [List.mem_singleton.mp hj]
    exact Nat.lt_succ_of_le (h.bounded r hr)
  bounded := by
    intro r hr
    rcases List.mem_append.mp hr with hr | hr
    · exact Nat.le_succ_of_le (h.bounded r hr)
    · rw [List.mem_singleton.mp hr]
      exact Nat.le_refl _
  distinct := by
    show ((s.rows ++ [_]).map _).Nodup
    rw [List.map_append, List.nodup_append]
    refine ⟨h.distinct, List.pairwise_singleton _ _, ?_⟩
    intro i hi j hj
    obtain ⟨r, hr, rfl⟩ := List.mem_map.mp hi
    rw [List.mem_singleton.mp hj]
    exact hfresh r hr
  shaped := by
    intro r hr
    rcases List.mem_append.mp hr with hr | hr
    · exact h.shaped r hr
    · rw [List.mem_singleton.mp hr, Row.vector_ofChunk]
      exact ⟨hv, hd⟩

/-- 入れ替える行の名前が断片と同じなら、どの行の番号も名前も変わらない。 -/
theorem Sound.changeRow (h : s.Sound) {r : Row} {c : Chunk} {v : Vec} (hv : v ≠ [])
    (hd : s.dimensions = some v.length) (hr : r ∈ s.rows) (hid : r.chunk.id = c.id) :
    (s.changeRow r c v).Sound := by
  have hids : (s.changeRow r c v).rows.map (·.id) = s.rows.map (·.id) := by
    show (s.rows.map _).map _ = _
    rw [List.map_map]
    refine List.map_congr_left fun x _ => ?_
    show (if x.id = r.id then _ else x : Row).id = x.id
    split
    · next hx => exact hx.symm
    · rfl
  have hnames : (s.changeRow r c v).rows.map (·.chunk.id) = s.rows.map (·.chunk.id) := by
    show (s.rows.map _).map _ = _
    rw [List.map_map]
    refine List.map_congr_left fun x hx => ?_
    show (if x.id = r.id then _ else x : Row).chunk.id = x.chunk.id
    split
    · next heq =>
      -- 番号が同じ行は `r` だけで、その名前は断片の名前と同じである
      rw [h.row_eq hr hx heq]
      exact hid.symm
    · rfl
  refine ⟨?_, ?_, ?_, ?_⟩
  · rw [hids]
    exact h.ascending
  · intro x hx
    have hmem : x.id ∈ s.rows.map (·.id) := by
      rw [← hids]
      exact List.mem_map_of_mem hx
    obtain ⟨y, hy, hyx⟩ := List.mem_map.mp hmem
    rw [← hyx]
    exact h.bounded y hy
  · rw [hnames]
    exact h.distinct
  · intro x hx
    obtain ⟨y, hy, rfl⟩ := List.mem_map.mp hx
    split
    · rw [Row.vector_ofChunk]
      exact ⟨hv, hd⟩
    · exact h.shaped y hy

theorem Sound.put (h : s.Sound) {c : Chunk} {v : Vec} (hv : v ≠ [])
    (hd : s.dimensions = some v.length) : (s.put c v).Sound := by
  unfold Store.put
  split
  · next r hfind =>
    have hname : r.name = c.id := by simpa using List.find?_some hfind
    exact h.changeRow hv hd (List.mem_of_find?_eq_some hfind) hname
  · next hfind =>
    have hfresh : ∀ r ∈ s.rows, r.name ≠ c.id := by simpa using hfind
    exact h.addRow hv hd hfresh

/-! ## 書き込み -/

theorem prepare_of_some {d : Nat} (hd : s.dimensions = some d) (n : Nat) : s.prepare n = s := by
  unfold prepare
  rw [hd]

theorem dimensions_prepare {n : Nat} (h : s.Fits n) : (s.prepare n).dimensions = some n := by
  cases hd : s.dimensions with
  | none =>
    unfold prepare
    rw [hd]
  | some d =>
    rw [prepare_of_some hd, hd, h d hd]

/-- 長さが決まっていなければ、行はない。 -/
theorem Sound.rows_eq_nil (h : s.Sound) (hd : s.dimensions = none) : s.rows = [] :=
  List.eq_nil_iff_forall_not_mem.mpr fun r hr => nomatch hd.symm.trans (h.shaped r hr).2

theorem Sound.prepare (h : s.Sound) (n : Nat) : (s.prepare n).Sound := by
  cases hd : s.dimensions with
  | none =>
    -- 長さを新しく決めるのは、まだ行のないときである
    have hrows : (s.prepare n).rows = [] := by
      unfold Store.prepare
      rw [hd]
      exact h.rows_eq_nil hd
    refine ⟨?_, ?_, ?_, ?_⟩ <;> rw [hrows]
    · exact .nil
    · exact nofun
    · exact .nil
    · exact nofun
  | some d =>
    rw [prepare_of_some hd]
    exact h

/-- 不変条件をみたす保存先について、書き込みの一段ずつが `P` を保つこと。 -/
structure Kept (P : Store → Prop) : Prop where
  prepare : ∀ {s : Store}, s.Sound → P s → ∀ n, P (s.prepare n)
  dropFile : ∀ {s : Store}, s.Sound → P s → ∀ path, P (s.dropFile path)
  put : ∀ {s : Store}, s.Sound → P s → ∀ {c : Chunk} {v : Vec}, v ≠ [] →
    s.dimensions = some v.length → P (s.put c v)

theorem Kept.putAll {P : Store → Prop} (hP : Kept P) : ∀ {items : List (Chunk × Vec)} {s : Store},
    s.Sound → P s → (∀ i ∈ items, i.2 ≠ [] ∧ s.dimensions = some i.2.length) →
    (s.putAll items).Sound ∧ P (s.putAll items)
  | [], _, hs, h, _ => ⟨hs, h⟩
  | i :: items, s, hs, h, hitems => by
    obtain ⟨hv, hd⟩ := hitems i List.mem_cons_self
    refine Kept.putAll (s := s.put i.1 i.2) hP (hs.put hv hd) (hP.put hs h hv hd) fun j hj => ?_
    rw [dimensions_put]
    exact hitems j (List.mem_cons_of_mem i hj)

/-- **一段ずつが保つことは、書き込みが保つ。** 断られた書き込みは何も変えない。 -/
theorem Kept.write {P : Store → Prop} (hP : Kept P) (hs : s.Sound) (h : P s)
    (replaced : Option String) (chunks : List Chunk) :
    (s.write replaced chunks).2.Sound ∧ P (s.write replaced chunks).2 := by
  rcases s.write_cases replaced chunks with ⟨e, -, hwrite⟩ | ⟨u, hprep, hwrite⟩
  · rw [hwrite]
    exact ⟨hs, h⟩
  · rw [hwrite]
    have hu : u.Sound ∧ P u ∧ ∀ i ∈ storable chunks, u.dimensions = some i.2.length := by
      rcases prepareFor_eq_ok hprep with ⟨hnil, rfl⟩ | ⟨n, hall, hfits, rfl⟩
      · rw [hnil]
        exact ⟨hs, h, nofun⟩
      · refine ⟨hs.prepare n, hP.prepare hs h n, fun i hi => ?_⟩
        rw [hall i hi]
        exact dimensions_prepare hfits
    have hvacated : (u.vacated replaced).Sound ∧ P (u.vacated replaced)
        ∧ (u.vacated replaced).dimensions = u.dimensions := by
      cases replaced with
      | none => exact ⟨hu.1, hu.2.1, rfl⟩
      | some path => exact ⟨hu.1.dropFile path, hP.dropFile hu.1 hu.2.1 path, rfl⟩
    refine hP.putAll hvacated.1 hvacated.2.1 fun i hi => ⟨(mem_storable hi).2.2, ?_⟩
    rw [hvacated.2.2]
    exact hu.2.2 i hi

/-- **書き込みは、断られても通っても不変条件を保つ。** -/
theorem Sound.write (h : s.Sound) (replaced : Option String) (chunks : List Chunk) :
    (s.write replaced chunks).2.Sound := by
  have hkept : Kept fun _ => True := by constructor <;> intros <;> trivial
  exact (hkept.write h trivial replaced chunks).1

/-- 書き込みは、決まった長さを変えない。決まっていなければ、決めることがある。 -/
theorem dimensions_write (s : Store) (replaced : Option String) (chunks : List Chunk) :
    (s.write replaced chunks).2.dimensions = s.dimensions
    ∨ s.dimensions = none ∧ ∃ d, (s.write replaced chunks).2.dimensions = some d := by
  rcases s.write_cases replaced chunks with ⟨e, -, hwrite⟩ | ⟨u, hprep, hwrite⟩
  · rw [hwrite]
    exact Or.inl rfl
  · have hvacated : (u.vacated replaced).dimensions = u.dimensions := by cases replaced <;> rfl
    rw [hwrite, dimensions_putAll, hvacated]
    rcases prepareFor_eq_ok hprep with ⟨-, rfl⟩ | ⟨n, -, hfits, rfl⟩
    · exact Or.inl rfl
    · rw [dimensions_prepare hfits]
      cases hd : s.dimensions with
      | none => exact Or.inr ⟨rfl, n, rfl⟩
      | some d => exact Or.inl (congrArg some (hfits d hd).symm)

/-! ## 操作の列 -/

/-- **操作の一つずつが不変条件を保つ。** -/
theorem Sound.apply (h : s.Sound) (op : Operation) : (op.apply s).Sound := by
  cases op with
  | insert chunks => exact h.write none chunks
  | replaceFile path chunks => exact h.write (some path) chunks
  | deleteFile path => exact h.dropFile path
  | recordFile path hash => exact h.recordFile path hash
  | clear => exact sound_clear s
  | reopen lexical => exact h.reopen lexical

/-- 得られた保存先に操作を順に重ねても、得られる保存先である。 -/
theorem Reachable.run (h : s.Reachable) (ops : List Operation) :
    (ops.foldl Operation.apply s).Reachable := by
  induction ops generalizing s with
  | nil => exact h
  | cons op ops ih => exact ih (h.step op)

theorem Reachable.insert (h : s.Reachable) {chunks : List Chunk} {n : Nat} {t : Store}
    (ht : s.insert chunks = .ok (n, t)) : t.Reachable := by
  have hstep := h.step (.insert chunks)
  simp only [Operation.apply, write_eq, ht] at hstep
  exact hstep

theorem Reachable.replaceFile (h : s.Reachable) {path : String} {chunks : List Chunk} {n : Nat}
    {t : Store} (ht : s.replaceFile path chunks = .ok (n, t)) : t.Reachable := by
  have hstep := h.step (.replaceFile path chunks)
  simp only [Operation.apply, write_eq, ht] at hstep
  exact hstep

theorem Reachable.dropFiles (h : s.Reachable) (paths : List String) :
    (s.dropFiles paths).Reachable := by
  have hrun := h.run (paths.map .deleteFile)
  rw [List.foldl_map] at hrun
  exact hrun

theorem Reachable.sound (h : s.Reachable) : s.Sound := by
  induction h with
  | empty lexical => exact sound_empty lexical
  | step _ op ih => exact ih.apply op

/-- **長さは書き込みで決まり、全消去で消え、ほかでは変わらない。** -/
theorem dimensions_apply (s : Store) (op : Operation) :
    (op.apply s).dimensions = s.dimensions
    ∨ (op.isWrite = true ∧ s.dimensions = none ∧ ∃ d, (op.apply s).dimensions = some d)
    ∨ (op = .clear ∧ (op.apply s).dimensions = none) := by
  cases op with
  | insert chunks =>
    exact (s.dimensions_write none chunks).imp id fun h => Or.inl ⟨rfl, h⟩
  | replaceFile path chunks =>
    exact (s.dimensions_write (some path) chunks).imp id fun h => Or.inl ⟨rfl, h⟩
  | deleteFile path => exact Or.inl rfl
  | recordFile path hash => exact Or.inl rfl
  | clear => exact Or.inr (Or.inr ⟨rfl, rfl⟩)
  | reopen lexical => exact Or.inl rfl

/-! ## 検索 -/

section Search

variable {α : Type} [Quantity α] {F : Keyword.FullText} {metric : Metric α} {query : Vec}

theorem ensureReady_eq_ok {n : Nat} (h : s.ensureReady n = .ok ()) : s.dimensions = some n := by
  unfold ensureReady at h
  grind

/-- 検索が受け付けた問い合わせは、どの行のベクトルとも同じ長さである。 -/
theorem Sound.length_eq (h : s.Sound) (hready : s.ensureReady query.length = .ok ()) {r : Row}
    (hr : r ∈ s.rows) : r.vector.length = query.length :=
  Option.some.inj ((h.shaped r hr).2.symm.trans (ensureReady_eq_ok hready))

theorem vectorSearch_eq_ok {limit : Nat} {floor : α} {hits : List (Hit α)}
    (h : s.vectorSearch metric query limit floor = .ok hits) :
    s.ensureReady query.length = .ok () := by
  unfold vectorSearch at h
  cases hready : s.ensureReady query.length with
  | error e => rw [hready] at h; cases h
  | ok _ => rfl

theorem hybridSearch_eq_ok {text : String} {limit k : Nat} {floor : α} {hits : List (Hit α)}
    (h : s.hybridSearch F metric text query limit floor k = .ok hits) :
    s.ensureReady query.length = .ok () := by
  unfold hybridSearch at h
  cases hnear : s.vectorSearch metric query (doubled limit) floor with
  | error e => rw [hnear] at h; cases h
  | ok near => exact vectorSearch_eq_ok hnear

/-- 語で探した答えは、語や索引がなければ空で、あれば見つかった番号の行である。 -/
theorem keywordRows_cases {text : String} {limit : Nat} {rows : List Row}
    (h : s.keywordRows F text limit = .ok rows) :
    rows = [] ∨ ∃ log ids, s.keywords = some log ∧ Keyword.expression text ≠ ""
      ∧ F.search log (Keyword.expression text) = .ok ids
      ∧ rows = (ids.filterMap fun id => s.rows.find? fun r => r.id == id).take limit := by
  unfold keywordRows askKeywords at h
  cases hkeywords : s.keywords with
  | none =>
    rw [hkeywords] at h
    exact Or.inl (Except.ok.inj h).symm
  | some log =>
    rw [hkeywords] at h
    simp only [] at h
    split at h
    · exact Or.inl (Except.ok.inj h).symm
    · next hne =>
      cases hids : F.search log (Keyword.expression text) with
      | error detail =>
        rw [hids] at h
        cases h
      | ok ids =>
        rw [hids] at h
        exact Or.inr ⟨log, ids, rfl, hne, hids, (Except.ok.inj h).symm⟩

theorem mem_keywordRows {text : String} {limit : Nat} {rows : List Row}
    (h : s.keywordRows F text limit = .ok rows) {r : Row} (hr : r ∈ rows) : r ∈ s.rows := by
  rcases keywordRows_cases h with rfl | ⟨log, ids, -, -, -, rfl⟩
  · cases hr
  · obtain ⟨id, -, hfind⟩ := List.mem_filterMap.mp (List.mem_of_mem_take hr)
    exact List.mem_of_find?_eq_some hfind

omit [Quantity α] in
theorem Sound.distances_eq (h : s.Sound) (hready : s.ensureReady query.length = .ok ()) :
    distances metric query s.rows = s.rows.map fun r => (metric query r.vector, r) := by
  unfold distances
  rw [List.filter_eq_self.mpr]
  intro r hr
  simpa using h.length_eq hready hr

theorem Sound.keywordHit_eq (h : s.Sound) (hready : s.ensureReady query.length = .ok ()) {r : Row}
    (hr : r ∈ s.rows) :
    keywordHit metric query r
      = { chunk := r.chunk, similarity := Rank.similarity (metric query r.vector) } := by
  unfold keywordHit
  rw [if_pos (h.length_eq hready hr)]

end Search

/-! ## 得られる保存先 -/

/-- **空の保存先から操作を重ねて得られる保存先では、断片の名前に重なりがなく、行があれば
ベクトルの長さが決まっていて、どの行のベクトルも空でなく、その長さである。** 次の操作で長さが変わるのは、
書き込みが決めるときと、全消去が消すときに限る。受け付けた検索は、ベクトルの長さを理由に行を
飛ばさず、語で見つけた行の類似度を零で補わない。 -/
theorem reachable_representation (h : s.Reachable) :
    (s.rows.map (·.chunk.id)).Nodup
    ∧ (s.rows ≠ [] → ∃ d, s.dimensions = some d
      ∧ ∀ r ∈ s.rows, r.vector ≠ [] ∧ r.vector.length = d)
    ∧ (∀ op : Operation, (op.apply s).dimensions = s.dimensions
      ∨ (op.isWrite = true ∧ s.dimensions = none ∧ ∃ d, (op.apply s).dimensions = some d)
      ∨ (op = .clear ∧ (op.apply s).dimensions = none))
    ∧ ∀ (α : Type) [Quantity α] (metric : Metric α) (query : Vec) (limit : Nat) (floor : α),
      (∀ hits, s.vectorSearch metric query limit floor = .ok hits →
        distances metric query s.rows = s.rows.map fun r => (metric query r.vector, r))
      ∧ ∀ F text k hits, s.hybridSearch F metric text query limit floor k = .ok hits →
        ∀ n rows, s.keywordRows F text n = .ok rows → ∀ r ∈ rows, keywordHit metric query r
          = { chunk := r.chunk, similarity := Rank.similarity (metric query r.vector) } := by
  have hsound := h.sound
  refine ⟨hsound.distinct, ?_, s.dimensions_apply, fun α _ metric query limit floor => ⟨?_, ?_⟩⟩
  · intro hrows
    obtain ⟨r, hr⟩ := List.exists_mem_of_ne_nil _ hrows
    refine ⟨r.vector.length, (hsound.shaped r hr).2, fun x hx => ?_⟩
    obtain ⟨hne, hd⟩ := hsound.shaped x hx
    exact ⟨hne, Option.some.inj (hd.symm.trans (hsound.shaped r hr).2)⟩
  · intro hits hhits
    exact hsound.distances_eq (vectorSearch_eq_ok hhits)
  · intro F text k hits hhits n rows hrows r hr
    exact hsound.keywordHit_eq (hybridSearch_eq_ok hhits) (mem_keywordRows hrows hr)

/-- 同じ断片を二度書き、揃わない断片での入れ替えを断られてから、開き直した保存先。 -/
def reopened : Store :=
  [Operation.insert [wide, wide], .replaceFile "a.rs" [narrow, wide], .reopen false].foldl
    Operation.apply (.empty true)

/-- 行は一つだけで、その長さの問い合わせは、その行を飛ばさない。 -/
theorem reachable_representation_reopened :
    reopened.rows.length = 1 ∧ (reopened.rows.map (·.chunk.id)).Nodup
    ∧ (∃ d, reopened.dimensions = some d ∧ ∀ r ∈ reopened.rows, r.vector ≠ [] ∧ r.vector.length = d)
    ∧ distances Vec.metric [0.0, 1.0] reopened.rows
      = reopened.rows.map fun r => (Vec.metric [0.0, 1.0] r.vector, r) := by
  have hreach : reopened.Reachable := (Reachable.empty true).run _
  have hlength : reopened.rows.length = 1 := by decide +kernel
  have hready : reopened.ensureReady 2 = .ok () := by
    unfold ensureReady
    rw [show reopened.dimensions = some 2 from rfl]
    simp [List.isEmpty_iff, ← List.length_eq_zero_iff, hlength]
  obtain ⟨hdistinct, hshaped, -, hsearch⟩ := reachable_representation hreach
  have hrows : reopened.rows ≠ [] := List.ne_nil_of_length_pos (hlength ▸ Nat.one_pos)
  obtain ⟨hits, hhits⟩ : ∃ hits,
      reopened.vectorSearch Vec.metric [0.0, 1.0] 1 0.0 = .ok hits := by
    unfold vectorSearch
    rw [show [(0.0 : Single), 1.0].length = 2 from rfl, hready]
    exact ⟨_, rfl⟩
  have hall := (hsearch Float Vec.metric [0.0, 1.0] 1 0.0).1 hits hhits
  exact ⟨hlength, hdistinct, hshaped hrows, hall⟩

end CodeSearch.Store
