import Mathlib.Data.List.Nodup
import CodeSearch.Proofs.Chunking.Completion
import CodeSearch.Proofs.Engine.Storing

/-!
# 一回の索引づけの結末

索引づけは、失敗して保存先に触らないか、成果を保存するかのどちらかである（`run_cases`）。
成果を保存したときは、どのファイルも前のままか、すべての断片が勘定に入った新しい姿に替わる
（`Saved`）。

* `generation_accounts` — 成果は、断片の列の前の部分の勘定である
* `run_saved` — 保存は断られず、その後のファイルの姿は `Saved` のとおりである
-/

namespace CodeSearch

namespace Engine

variable {σ : Type} {limits : ChunkLimits} {loader : Loader} {files : List SourceFile}

/-! ## 切ったばかりの断片 -/

/-- ファイルを順に切った断片。 -/
def pieces (limits : ChunkLimits) (loader : Loader) (files : List SourceFile) : List Chunk :=
  files.flatMap (Chunking.alone limits loader)

theorem pieces_cons (f : SourceFile) (fs : List SourceFile) :
    pieces limits loader (f :: fs) = Chunking.alone limits loader f ++ pieces limits loader fs :=
  List.flatMap_cons

theorem path_of_mem_alone {f : SourceFile} {c : Chunk} (h : c ∈ Chunking.alone limits loader f) :
    c.path = f.path :=
  (Chunking.linePartition_alone limits loader f).path_eq c h

theorem canonical_of_mem_pieces {c : Chunk} (h : c ∈ pieces limits loader files) :
    c.Canonical := by
  obtain ⟨f, -, hc⟩ := List.mem_flatMap.mp h
  have hpart := Chunking.linePartition_alone limits loader f
  unfold Chunk.Canonical
  rw [hpart.path_eq c hc]
  exact hpart.id_eq c hc

/-- 切ったばかりの断片に、時刻はまだ付いていない。 -/
theorem createdAt_of_mem_pieces {c : Chunk} (h : c ∈ pieces limits loader files) :
    c.createdAt = 0 := by
  obtain ⟨f, -, hc⟩ := List.mem_flatMap.mp h
  exact (Chunking.isCut_chunk limits _ f).createdAt c hc

/-- 切ったばかりの断片に、外すベクトルはない。 -/
theorem bare_of_mem_pieces {c : Chunk} (h : c ∈ pieces limits loader files) : c.bare = c := by
  obtain ⟨f, -, hc⟩ := List.mem_flatMap.mp h
  exact Chunk.bare_of_vector_none ((Chunking.linePartition_alone limits loader f).vector_eq c hc)

theorem map_bare_take_pieces (n : Nat) :
    ((pieces limits loader files).take n).map Chunk.bare = (pieces limits loader files).take n := by
  have hbare : ∀ c ∈ (pieces limits loader files).take n, c.bare = id c :=
    fun c hc => bare_of_mem_pieces (List.mem_of_mem_take hc)
  rw [List.map_congr_left hbare, List.map_id]

theorem ids_nodup_pieces (hn : (files.map (·.path)).Nodup) :
    ((pieces limits loader files).map (·.id)).Nodup :=
  LinePartition.ids_nodup_flatMap hn fun f _ => Chunking.linePartition_alone limits loader f

theorem filter_pieces_of_notMem : ∀ {files : List SourceFile} {path : String},
    path ∉ files.map (·.path) → (pieces limits loader files).filter (inPath path) = [] := by
  intro files path hnot
  rw [List.filter_eq_nil_iff]
  intro c hc hin
  obtain ⟨f, hf, hcf⟩ := List.mem_flatMap.mp hc
  have hpath : c.path = path := by simpa [inPath] using hin
  exact hnot (List.mem_map.mpr ⟨f, hf, (path_of_mem_alone hcf).symm.trans hpath⟩)

/-- ファイルの断片だけを選べば、そのファイルだけを切った断片になる。 -/
theorem filter_pieces : ∀ {files : List SourceFile}, (files.map (·.path)).Nodup →
    ∀ f ∈ files, (pieces limits loader files).filter (inPath f.path)
      = Chunking.alone limits loader f
  | [], _, f, hf => by simp at hf
  | f' :: fs, hn, f, hf => by
    obtain ⟨hnot, hrest⟩ := List.nodup_cons.mp hn
    rw [pieces_cons, List.filter_append]
    rcases List.mem_cons.mp hf with rfl | hf
    · rw [filter_pieces_of_notMem hnot, List.append_nil, List.filter_eq_self]
      intro c hc
      simpa [inPath] using path_of_mem_alone hc
    · have hother : (Chunking.alone limits loader f').filter (inPath f.path) = [] := by
        rw [List.filter_eq_nil_iff]
        intro c hc hin
        have hpath : c.path = f.path := by simpa [inPath] using hin
        rw [path_of_mem_alone hc] at hpath
        exact hnot (List.mem_map.mpr ⟨f, hf, hpath.symm⟩)
      rw [hother, List.nil_append]
      exact filter_pieces hrest f hf

/-! ## ファイルごとの勘定 -/

/-- パスが互いに違えば、パスで引いた値はそのファイルの値である。 -/
theorem lastOf_map {β : Type} (value : SourceFile → β) (hn : (files.map (·.path)).Nodup)
    {f : SourceFile} (hf : f ∈ files) :
    lastOf (files.map fun f => (f.path, value f)) f.path = some (value f) := by
  unfold lastOf
  rw [← List.map_reverse]
  -- 後ろから引いても、パスが互いに違えば順によらない
  have hrev : (files.reverse.map (·.path)).Nodup := by
    rw [List.map_reverse]
    exact List.nodup_reverse.mpr hn
  have hmem : f ∈ files.reverse := List.mem_reverse.mpr hf
  generalize files.reverse = fs at hrev hmem
  induction fs with
  | nil => simp at hmem
  | cons g fs ih =>
    obtain ⟨hnot, hrest⟩ := List.nodup_cons.mp hrev
    rw [List.map_cons, List.lookup_cons]
    rcases List.mem_cons.mp hmem with rfl | hmem
    · simp
    · have hne : (f.path == g.path) = false := by
        rw [beq_eq_false_iff_ne]
        intro heq
        exact hnot (List.mem_map.mpr ⟨f, hmem, heq⟩)
      rw [hne]
      exact ih hrest hmem

theorem chunkCounts_eq : ∀ {files : List SourceFile} {outcomes : List ChunkOutcome},
    outcomes.map (·.chunks) = files.map (Chunking.alone limits loader) →
    chunkCounts files outcomes
      = files.map fun f => (f.path, (Chunking.alone limits loader f).length)
  | [], outcomes, _ => rfl
  | f :: fs, [], h => by cases h
  | f :: fs, o :: os, h => by
    have hhead : o.chunks = Chunking.alone limits loader f := (List.cons.inj h).1
    show (f.path, o.chunks.length) :: chunkCounts fs os = _
    rw [hhead, chunkCounts_eq (List.cons.inj h).2]
    rfl

/-- ファイルの断片のうち、埋め込めなかったもの。 -/
def failedOf (failed : List FailedChunk) (path : String) : List FailedChunk :=
  failed.filter fun f => f.chunk.path == path

theorem failuresIn_eq (failed : List FailedChunk) (path : String) :
    failuresIn failed path = (failedOf failed path).length := rfl

section Accounting

variable {R : String → Vec → Prop} {normalizes segment : Bool} {g : Generation} {n : Nat}

/-- 一つのファイルについての勘定。処理した断片は、そのファイルの断片の前の部分である。 -/
theorem interleaved_filter
    (h : g.Accounts R normalizes segment ((pieces limits loader files).take n)) (path : String) :
    Interleaved ((g.embedded.filter (inPath path)).map Chunk.bare)
      ((failedOf g.failed path).map (·.chunk.bare))
      (((pieces limits loader files).take n).filter (inPath path)) := by
  have hsplit := h.interleaved.filter (inPath path)
  rw [map_bare_take_pieces, List.filter_map, List.filter_map] at hsplit
  exact hsplit

/-- 勘定の数がファイルの断片の数に届けば、ファイルの断片の全部が勘定に入っている。 -/
theorem interleaved_alone (hn : (files.map (·.path)).Nodup) {f : SourceFile} (hf : f ∈ files)
    (h : g.Accounts R normalizes segment ((pieces limits loader files).take n))
    (hcount : (Chunking.alone limits loader f).length
      ≤ (g.embedded.filter (inPath f.path)).length + failuresIn g.failed f.path) :
    Interleaved ((g.embedded.filter (inPath f.path)).map Chunk.bare)
      ((failedOf g.failed f.path).map (·.chunk.bare)) (Chunking.alone limits loader f) := by
  have hfile := interleaved_filter h f.path
  have hlen := hfile.length_eq
  rw [List.length_map, List.length_map, ← failuresIn_eq] at hlen
  -- 前の部分を選んでも前の部分である。長さが足りているので、全部である
  have hprefix : ((pieces limits loader files).take n).filter (inPath f.path)
      <+: Chunking.alone limits loader f := by
    rw [← filter_pieces hn f hf]
    exact (List.take_prefix n _).filter _
  rw [← hprefix.eq_of_length_le (by omega)]
  exact hfile

theorem mem_pieces_of_embedded
    (h : g.Accounts R normalizes segment ((pieces limits loader files).take n)) :
    ∀ c ∈ g.embedded, c.bare ∈ pieces limits loader files := by
  intro c hc
  have hsub := h.interleaved.sublist_left
  rw [map_bare_take_pieces] at hsub
  exact List.mem_of_mem_take (hsub.subset (List.mem_map_of_mem hc))

theorem canonical_embedded
    (h : g.Accounts R normalizes segment ((pieces limits loader files).take n)) :
    ∀ c ∈ g.embedded, c.Canonical := by
  intro c hc
  have hbare : c.bare.Canonical := canonical_of_mem_pieces (mem_pieces_of_embedded h c hc)
  exact hbare

/-- 埋め込めた断片は、そのまま保存を待てる。 -/
theorem ready_embedded (hn : (files.map (·.path)).Nodup)
    (h : g.Accounts R normalizes segment ((pieces limits loader files).take n)) :
    Ready (g.dimensions.getD 0) g.embedded where
  canonical := canonical_embedded h
  whole := by
    intro c hc
    have hzero : c.bare.createdAt = 0 := createdAt_of_mem_pieces (mem_pieces_of_embedded h c hc)
    rw [show c.createdAt = 0 from hzero]
    rfl
  ids_nodup := by
    have hsub := h.interleaved.sublist_left
    rw [map_bare_take_pieces] at hsub
    have hids := ((hsub.trans (List.take_sublist n _)).map (·.id)).nodup (ids_nodup_pieces hn)
    rw [List.map_map] at hids
    exact hids
  carries := by
    intro c hc
    obtain ⟨v, hne, hdim, -, hv⟩ := h.carries c hc
    have hlen := Generation.length_finish normalizes v
    refine ⟨_, hv, ?_, ?_⟩
    · rwa [← List.length_pos_iff, hlen, List.length_pos_iff]
    · rw [hlen, hdim, Option.getD_some]

end Accounting

/-! ## 埋め込みの成果 -/

/-- 索引づけのときの埋め込みの成果。 -/
def generation (p : Provider σ) (stop : Nat → Bool) (schedule : List Nat) (e : Engine)
    (files : List SourceFile) (s : Session σ) : Except Error Generation :=
  (Embedding.generate p e.settings.embedding stop e.size
    ((e.chunked schedule files).1.flatMap (·.chunks)) (preflight p s).2).result

/-- 作業者がどう進んでも、切った断片は一つずつ切ったもので、保管は読み込みと食い違わない。 -/
theorem chunked_chunks {e : Engine} (h : e.registry.Agrees loader) (schedule : List Nat)
    (files : List SourceFile) :
    (e.chunked schedule files).1.map (·.chunks) = files.map (Chunking.alone e.limits loader)
    ∧ (e.chunked schedule files).2.Agrees loader :=
  Chunking.chunkThrough_chunks h e.limits e.settings.chunker.maxWorkers schedule files

theorem flatMap_chunked {e : Engine} (h : e.registry.Agrees loader) (schedule : List Nat)
    (files : List SourceFile) :
    (e.chunked schedule files).1.flatMap (·.chunks) = pieces e.limits loader files := by
  unfold pieces
  rw [List.flatMap_def, List.flatMap_def, (chunked_chunks h schedule files).1]

/-- **成果は、断片の列の前の部分の勘定である。** -/
theorem generation_accounts {p : Provider σ} {stop : Nat → Bool} {schedule : List Nat} {e : Engine}
    {s : Session σ} {R : String → Vec → Prop} {g : Generation} (hr : e.registry.Agrees loader)
    (hp : p.Answers R) (h : generation p stop schedule e files s = .ok g) :
    ∃ n ≤ (pieces e.limits loader files).length,
      g.Accounts R p.normalizes e.settings.embedding.segmentIdentifiers
        ((pieces e.limits loader files).take n)
      ∧ (g.cancelled = true ↔ n < (pieces e.limits loader files).length) := by
  unfold generation at h
  rw [flatMap_chunked hr] at h
  exact Embedding.generate_accounts hp h

/-! ## 保存の前後 -/

/-- ファイルの新しい姿。行は埋め込めた断片の全部であり、ファイルの断片はどれも、
埋め込めたか埋め込めなかったかのどちらか一方である。埋め込めないものがなければ要約を記録する。 -/
structure Replaced (limits : ChunkLimits) (loader : Loader) (digest : String → String)
    (f : SourceFile) (g : Generation) (t : Store) : Prop where
  accounted : Interleaved ((g.embedded.filter (inPath f.path)).map Chunk.bare)
    ((failedOf g.failed f.path).map (·.chunk.bare)) (Chunking.alone limits loader f)
  rows : (t.rowsOf f.path).map Row.content
    = (g.embedded.filter (inPath f.path)).map Chunk.content
  hash : t.hash? f.path
    = if failedOf g.failed f.path = [] then some (digest f.text) else none

/-- 成果を保存した前後。 -/
structure Saved (limits : ChunkLimits) (loader : Loader) (digest : String → String)
    (files : List SourceFile) (g : Generation) (s t : Store) : Prop where
  /-- ほかのファイルには触らない。 -/
  others : ∀ q, q ∉ files.map (·.path) → Store.Untouched q s t
  /-- どのファイルも、前のままか新しい姿かのどちらかである。 -/
  each : ∀ f ∈ files, Store.Untouched f.path s t ∨ Replaced limits loader digest f g t
  /-- 途中でやめていなければ、どのファイルも新しい姿である。 -/
  finished : g.cancelled = false → ∀ f ∈ files, Replaced limits loader digest f g t

section Saving

variable {R : String → Vec → Prop} {normalizes segment : Bool} {digest : String → String}
  {g : Generation} {n : Nat}

/-- 出揃ったファイルは新しい姿に替わる。 -/
theorem FileStored.replaced {f : SourceFile} {s t : Store}
    (h : FileStored (Chunking.alone limits loader f).length (some (digest f.text))
      (g.embedded.filter (inPath f.path)) (failuresIn g.failed f.path) f.path s t)
    (hn : (files.map (·.path)).Nodup) (hf : f ∈ files)
    (hacc : g.Accounts R normalizes segment ((pieces limits loader files).take n))
    (hcount : (Chunking.alone limits loader f).length
      ≤ (g.embedded.filter (inPath f.path)).length + failuresIn g.failed f.path) :
    Replaced limits loader digest f g t := by
  unfold FileStored at h
  rw [if_neg (Nat.not_lt.mpr hcount)] at h
  refine ⟨interleaved_alone hn hf hacc hcount, h.1, ?_⟩
  rw [h.2, failuresIn_eq]
  simp only [List.length_eq_zero_iff]

/-- 途中でやめていなければ、断片の列の全部を処理しているので、どのファイルの断片も勘定に入る。 -/
theorem length_alone_of_finished (hn : (files.map (·.path)).Nodup) {f : SourceFile} (hf : f ∈ files)
    (hacc : g.Accounts R normalizes segment ((pieces limits loader files).take n))
    (hcancel : g.cancelled = true ↔ n < (pieces limits loader files).length)
    (hgo : g.cancelled = false) :
    (Chunking.alone limits loader f).length
      = (g.embedded.filter (inPath f.path)).length + failuresIn g.failed f.path := by
  have hfull : (pieces limits loader files).take n = pieces limits loader files := by
    refine List.take_of_length_le (Nat.not_lt.mp fun hlt => ?_)
    rw [hcancel.mpr hlt] at hgo
    cases hgo
  have hlen := (interleaved_filter hacc f.path).length_eq
  rwa [hfull, filter_pieces hn f hf, List.length_map, List.length_map, ← failuresIn_eq] at hlen

/-- 確かめの通った成果は、保存を始められる。 -/
theorem sound_of_accounts {store : Store} (hcan : store.Canonical)
    (hn : (files.map (·.path)).Nodup)
    (hacc : g.Accounts R normalizes segment ((pieces limits loader files).take n))
    (hok : checkDimensions store g.embedded = .ok ()) :
    ∃ m, Storing.Sound m { store, waiting := g.embedded } := by
  obtain ⟨m, hready, hfits⟩ := checkDimensions_fits (ready_embedded hn hacc) hok
  exact ⟨m, hcan, hfits, hready⟩

/-- 確かめの通った成果の保存は断られない。どのファイルも、断片が出揃っていなければ前のままで、
出揃っていれば入れ替わる。 -/
theorem storeFiles_stored (digest : String → String) {store : Store} (total : Nat)
    (hcan : store.Canonical) (hn : (files.map (·.path)).Nodup)
    (hacc : g.Accounts R normalizes segment ((pieces limits loader files).take n))
    (hok : checkDimensions store g.embedded = .ok ()) :
    ∃ st', storeFiles (files.map fun f => (f.path, (Chunking.alone limits loader f).length))
        (hashesOf digest files) g.failed total { store, waiting := g.embedded } 1 files
          = (.ok (), st')
      ∧ (∀ q, q ∉ files.map (·.path) → Store.Untouched q store st'.store)
      ∧ ∀ f ∈ files, FileStored (Chunking.alone limits loader f).length (some (digest f.text))
        (g.embedded.filter (inPath f.path)) (failuresIn g.failed f.path) f.path store
        st'.store := by
  obtain ⟨m, hsound⟩ := sound_of_accounts hcan hn hacc hok
  obtain ⟨st', hall, -, hothers, heach⟩ := storeFiles_spec
    (files.map fun f => (f.path, (Chunking.alone limits loader f).length)) (hashesOf digest files)
    g.failed total hsound hn 1
  refine ⟨st', hall, hothers, ?_⟩
  intro f hf
  have hone := heach f hf
  have hhash : lastOf (hashesOf digest files) f.path = some (digest f.text) :=
    lastOf_map (fun f => digest f.text) hn hf
  rwa [lastOf_map (fun f => (Chunking.alone limits loader f).length) hn hf, hhash,
    Option.getD_some] at hone

/-- 確かめの通った成果の保存は断られない。どのファイルも前のままか、新しい姿に替わる。 -/
theorem storeFiles_saved (digest : String → String) {store : Store} (total : Nat)
    (hcan : store.Canonical) (hn : (files.map (·.path)).Nodup)
    (hacc : g.Accounts R normalizes segment ((pieces limits loader files).take n))
    (hcancel : g.cancelled = true ↔ n < (pieces limits loader files).length)
    (hok : checkDimensions store g.embedded = .ok ()) :
    ∃ st', storeFiles (files.map fun f => (f.path, (Chunking.alone limits loader f).length))
        (hashesOf digest files) g.failed total { store, waiting := g.embedded } 1 files
          = (.ok (), st')
      ∧ Saved limits loader digest files g store st'.store := by
  obtain ⟨st', hall, hothers, hstored⟩ := storeFiles_stored digest total hcan hn hacc hok
  refine ⟨st', hall, hothers, ?_, ?_⟩
  · intro f hf
    by_cases hlt : (g.embedded.filter (inPath f.path)).length + failuresIn g.failed f.path
        < (Chunking.alone limits loader f).length
    · left
      have hone := hstored f hf
      unfold FileStored at hone
      rwa [if_pos hlt] at hone
    · exact Or.inr ((hstored f hf).replaced hn hf hacc (Nat.not_lt.mp hlt))
  · intro hgo f hf
    exact (hstored f hf).replaced hn hf hacc
      (Nat.le_of_eq (length_alone_of_finished hn hf hacc hcancel hgo))

end Saving

/-! ## 結末 -/

/-- 索引づけは、ファイルがなくて何もしないか、失敗して保存先に触らないか、
成果を保存するかのどれかである。 -/
theorem run_cases (p : Provider σ) (stop : Nat → Bool) (schedule : List Nat) (e : Engine)
    (files : List SourceFile)
    (hashes : List (String × String)) (s : Session σ) :
    (files = [] ∧ (run p stop schedule e files hashes s).result = .ok { success := true }
      ∧ (run p stop schedule e files hashes s).engine = e)
    ∨ (∃ err registry size, (run p stop schedule e files hashes s).result = .error err
      ∧ (run p stop schedule e files hashes s).engine = { e with registry, size }
      ∧ ∀ loader, e.registry.Agrees loader → registry.Agrees loader)
    ∨ ∃ g reports size s', generation p stop schedule e files s = .ok g
      ∧ run p stop schedule e files hashes s
        = finish { e with registry := (e.chunked schedule files).2, size } files
          hashes (e.chunked schedule files).1 g reports s' := by
  unfold run generation
  by_cases hfiles : files = []
  · left
    rw [if_pos (by simp [hfiles])]
    exact ⟨hfiles, rfl, rfl⟩
  · right
    rw [if_neg (by simpa using hfiles)]
    cases hpre : preflight p s with
    | mk checked s₁ =>
      cases checked with
      | error err => exact Or.inl ⟨err, e.registry, e.size, rfl, rfl, fun _ h => h⟩
      | ok _ =>
        simp only []
        split
        · next err _ =>
          exact Or.inl ⟨err, _, _, rfl, rfl, fun _ h => (chunked_chunks h schedule files).2⟩
        · next g hg => exact Or.inr ⟨g, _, _, _, hg, rfl⟩

/-- 成果を保存したときの要約。`stored` は保存した断片の数である。 -/
def summaryOf (files : List SourceFile) (outcomes : List ChunkOutcome) (g : Generation)
    (stored : Nat) : IndexSummary where
  success := g.failed.isEmpty && !g.cancelled
  totalFiles := files.length
  totalChunks := sumOf (outcomes.map (·.chunks.length))
  successfulChunks := stored
  failedChunks := g.failed.length
  errors := chunkErrors files outcomes ++ chunkFailures g.failed
  cancelled := g.cancelled

/-- 成果の保存は、確かめが断れば保存先に触らない。 -/
theorem finish_cases (e : Engine) (files : List SourceFile) (hashes : List (String × String))
    (outcomes : List ChunkOutcome) (g : Generation) (reports : List Progress) (s : Session σ) :
    ((∃ err, (finish e files hashes outcomes g reports s).result = .error err)
      ∧ (finish e files hashes outcomes g reports s).engine = e)
    ∨ (checkDimensions e.store g.embedded = .ok ()
      ∧ ∃ stored st, storeFiles (chunkCounts files outcomes) hashes g.failed files.length
          { store := e.store, waiting := g.embedded } 1 files = (stored, st)
        ∧ (finish e files hashes outcomes g reports s).engine = { e with store := st.store }
        ∧ (finish e files hashes outcomes g reports s).result
          = stored.map fun _ => summaryOf files outcomes g st.stored) := by
  unfold finish
  cases hcheck : checkDimensions e.store g.embedded with
  | error err => exact Or.inl ⟨⟨err, rfl⟩, rfl⟩
  | ok _ => exact Or.inr ⟨rfl, _, _, rfl, rfl, rfl⟩

/-- 索引づけの結末。 -/
inductive Outcome (loader : Loader) (p : Provider σ) (stop : Nat → Bool) (schedule : List Nat)
    (e : Engine) (files : List SourceFile) (s : Session σ) (r : IndexRun σ) : Prop where
  /-- ファイルがなく、何もしなかった。 -/
  | idle (summary : IndexSummary) : files = [] → r.result = .ok summary →
      summary.success = true → r.engine.store = e.store → Outcome loader p stop schedule e files s r
  /-- 失敗した。保存先には触っていない。 -/
  | failed (err : Error) : r.result = .error err → r.engine.store = e.store →
      Outcome loader p stop schedule e files s r
  /-- 成果を保存した。 -/
  | saved (g : Generation) (summary : IndexSummary) : generation p stop schedule e files s = .ok g →
      r.result = .ok summary → summary.success = (g.failed.isEmpty && !g.cancelled) →
      Saved e.limits loader e.digest files g e.store r.engine.store →
      Outcome loader p stop schedule e files s r

namespace Outcome

variable {p : Provider σ} {stop : Nat → Bool} {schedule : List Nat} {e : Engine} {s : Session σ}
  {r : IndexRun σ}

theorem store_eq_of_error (h : Outcome loader p stop schedule e files s r) {err : Error}
    (herr : r.result = .error err) : r.engine.store = e.store := by
  cases h with
  | idle _ _ _ _ hstore => exact hstore
  | failed _ _ hstore => exact hstore
  | saved _ _ _ hok _ _ =>
    rw [herr] at hok
    cases hok

/-- ほかのファイルには触らない。 -/
theorem untouched_of_notMem (h : Outcome loader p stop schedule e files s r) {path : String}
    (hnot : path ∉ files.map (·.path)) : Store.Untouched path e.store r.engine.store := by
  cases h with
  | idle _ _ _ _ hstore =>
    rw [hstore]
    exact .refl path e.store
  | failed _ _ hstore =>
    rw [hstore]
    exact .refl path e.store
  | saved _ _ _ _ _ hsaved => exact hsaved.others path hnot

/-- どのファイルも、前のままか新しい姿かのどちらかである。 -/
theorem untouched_or_replaced (h : Outcome loader p stop schedule e files s r) {f : SourceFile}
    (hf : f ∈ files) : Store.Untouched f.path e.store r.engine.store
      ∨ ∃ g, generation p stop schedule e files s = .ok g
        ∧ Replaced e.limits loader e.digest f g r.engine.store := by
  cases h with
  | idle _ hnil _ _ _ =>
    rw [hnil] at hf
    cases hf
  | failed _ _ hstore =>
    left
    rw [hstore]
    exact .refl f.path e.store
  | saved g _ hg _ _ hsaved => exact (hsaved.each f hf).imp_right fun hnew => ⟨g, hg, hnew⟩

/-- 成功すれば、どのファイルの要約も記録される。 -/
theorem hash?_of_success (h : Outcome loader p stop schedule e files s r) {summary : IndexSummary}
    (hok : r.result = .ok summary) (hsuccess : summary.success = true) {f : SourceFile}
    (hf : f ∈ files) : r.engine.store.hash? f.path = some (e.digest f.text) := by
  cases h with
  | idle _ hnil _ _ _ =>
    rw [hnil] at hf
    cases hf
  | failed err herr _ =>
    rw [hok] at herr
    cases herr
  | saved g summary' _ hok' hiff hsaved =>
    rw [hok] at hok'
    cases hok'
    rw [hsuccess, eq_comm, Bool.and_eq_true, List.isEmpty_iff, Bool.not_eq_true'] at hiff
    have hnone : failedOf g.failed f.path = [] := by
      unfold failedOf
      rw [hiff.1, List.filter_nil]
    rw [(hsaved.finished hiff.2 f hf).hash, if_pos hnone]

end Outcome

/-- **索引づけは、失敗して保存先に触らないか、ファイルごとに成果の全部を保存する。** -/
theorem run_saved {e : Engine} {p : Provider σ} (hr : e.registry.Agrees loader)
    (hcan : e.store.Canonical) (hn : (files.map (·.path)).Nodup) (stop : Nat → Bool)
    (schedule : List Nat) (s : Session σ) :
    Outcome loader p stop schedule e files s
      (run p stop schedule e files (hashesOf e.digest files) s) := by
  rcases run_cases p stop schedule e files (hashesOf e.digest files) s with ⟨hnil, hres, heng⟩ |
    ⟨err, _, _, hres, heng, -⟩ | ⟨g, reports, size, s', hg, hfinish⟩
  · exact .idle _ hnil hres rfl (by rw [heng])
  · exact .failed err hres (by rw [heng])
  · rw [hfinish]
    obtain ⟨n, -, hacc, hcancel⟩ := generation_accounts hr p.answers_anything hg
    rcases finish_cases { e with registry := (e.chunked schedule files).2, size }
      files (hashesOf e.digest files) (e.chunked schedule files).1 g reports s' with
      ⟨⟨err, hres⟩, heng⟩ | ⟨hok, stored, st, hstore, heng, hres⟩
    · exact .failed err hres (by rw [heng])
    · obtain ⟨st', hall, hsaved⟩ := storeFiles_saved e.digest files.length hcan hn hacc hcancel hok
      rw [chunkCounts_eq (chunked_chunks hr schedule files).1] at hstore
      obtain ⟨rfl, rfl⟩ := Prod.mk.inj (hall.symm.trans hstore)
      exact .saved g _ hg hres rfl (by rw [heng]; exact hsaved)

/-- 索引づけの間、設定と要約の求め方は変わらず、保管は読み込みと食い違わず、保存先の名前はパスと範囲から
決まる。パスが重なっていてもよい。 -/
theorem run_frame {e : Engine} (p : Provider σ) (stop : Nat → Bool) (schedule : List Nat)
    (files : List SourceFile) (hashes : List (String × String)) (s : Session σ)
    (hr : e.registry.Agrees loader) (hcan : e.store.Canonical) :
    ((run p stop schedule e files hashes s).engine.settings = e.settings
      ∧ (run p stop schedule e files hashes s).engine.digest = e.digest)
    ∧ (run p stop schedule e files hashes s).engine.registry.Agrees loader
    ∧ (run p stop schedule e files hashes s).engine.store.Canonical := by
  rcases run_cases p stop schedule e files hashes s with ⟨-, -, heng⟩ | ⟨_, _, _, -, heng, hagree⟩ |
    ⟨g, reports, size, s', hg, hfinish⟩
  · rw [heng]
    exact ⟨⟨rfl, rfl⟩, hr, hcan⟩
  · rw [heng]
    exact ⟨⟨rfl, rfl⟩, hagree loader hr, hcan⟩
  · rw [hfinish]
    obtain ⟨n, -, hacc, -⟩ := generation_accounts hr p.answers_anything hg
    have hnext := (chunked_chunks hr schedule files).2
    rcases finish_cases { e with registry := (e.chunked schedule files).2, size }
      files hashes (e.chunked schedule files).1 g reports s' with
      ⟨-, heng⟩ | ⟨-, stored, st, hstore, heng, -⟩
    · rw [heng]
      exact ⟨⟨rfl, rfl⟩, hnext, hcan⟩
    · rw [heng]
      refine ⟨⟨rfl, rfl⟩, hnext, ?_⟩
      have hafter : (storeFiles (chunkCounts files (e.chunked schedule files).1)
          hashes g.failed files.length { store := e.store, waiting := g.embedded } 1
          files).2.store.Canonical :=
        canonical_storeFiles _ _ _ _ files hcan (canonical_embedded hacc) 1
      rw [hstore] at hafter
      exact hafter

end Engine

end CodeSearch
