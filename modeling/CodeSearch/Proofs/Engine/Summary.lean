import CodeSearch.Proofs.Engine.Operations

/-!
# 要約は本当のことを伝える

要約の成否は、埋め込めなかった断片の数と、途中でやめたかどうかとから決める。保存の段は、断片の揃わない
ファイルを黙って飛ばす。それでも要約の数は、保存先に実際に書いた行と合う。

保存の段では、書いた行と、まだ待っている断片とを合わせた数は、飛ばしたファイルの分だけ減る
（`Written`）。途中でやめたのでなければ、どのファイルも飛ばさない。

* `Written.storeFile` — 一つのファイルの保存は、行と数の関係を保つ
* `Written.storeFiles` — ファイルの列の保存も保つ
* `summary_truthful` — 要約の数・成否・失敗の一覧は、実際に起きたことと合う
-/

namespace CodeSearch

namespace Engine

/-! ## 書いた行 -/

/-- パスのファイルの断片が、すべて勘定に入っていること。 -/
def Complete (counts : List (String × Nat)) (g : Generation) (path : String) : Prop :=
  (lastOf counts path).getD 0
    ≤ (g.embedded.filter (inPath path)).length + failuresIn g.failed path

/-- 成果 `g` を保存先 `s` に保存していく途中の様子。行は、前からあるものと、書いたもの `added` である。
`paths` は、`files` のうちまだ保存していないファイルのパスである。 -/
structure Written (counts : List (String × Nat)) (g : Generation) (s : Store)
    (files : List SourceFile) (paths : List String) (st : Storing) (added : List Row) : Prop where
  /-- 前からある行は減るだけで、書いた行はその後ろに並ぶ。 -/
  rows : ∃ kept, st.store.rows = kept ++ added ∧ kept.Sublist s.rows
  count : added.length = st.stored
  fresh : ∀ row ∈ added, s.lastId < row.id
  /-- 書いた行の中身は、埋め込めた断片である。 -/
  content : ∀ row ∈ added, row.content ∈ g.embedded.map Chunk.content
  past : ∀ row ∈ added, row.path ∉ paths
  lastId : s.lastId ≤ st.store.lastId
  waiting : st.waiting = g.embedded.filter fun c => c.path ∈ paths
  within : st.stored + st.waiting.length ≤ g.embedded.length
  /-- 飛ばすファイルがなければ、断片は書いたか待っているかである。 -/
  whole : (∀ f ∈ files, Complete counts g f.path) →
    st.stored + st.waiting.length = g.embedded.length

section Storing

variable {counts : List (String × Nat)} {hashes : List (String × String)} {total n : Nat}
  {g : Generation} {s : Store} {files : List SourceFile}

/-- 待っている断片のうち、これから保存するファイルのものは、埋め込めたそのファイルの断片の全部である。 -/
theorem Written.filter_waiting {paths : List String} {st : Storing} {added : List Row}
    {path : String} (h : Written counts g s files paths st added) (hin : path ∈ paths) :
    st.waiting.filter (inPath path) = g.embedded.filter (inPath path) := by
  rw [h.waiting, List.filter_filter]
  refine List.filter_congr fun c _ => ?_
  unfold inPath
  by_cases hc : c.path = path
  · simp [hc, hin]
  · simp [hc]

section Step

variable {paths : List String} {st st' : Storing} {added : List Row} {f : SourceFile}

/-- 一つのファイルの断片を除くと、待っているのは残りのファイルの断片である。 -/
theorem Written.waiting_next (h : Written counts g s files (f.path :: paths) st added)
    (hnot : f.path ∉ paths) (hwaiting : st'.waiting = st.waiting.filter fun c => c.path != f.path) :
    st'.waiting = g.embedded.filter (fun c => c.path ∈ paths)
      ∧ st.waiting.length = (st.waiting.filter (inPath f.path)).length + st'.waiting.length := by
  refine ⟨?_, ?_⟩
  · rw [hwaiting, h.waiting, List.filter_filter]
    refine List.filter_congr fun c _ => ?_
    by_cases hc : c.path = f.path
    · simp [hc, hnot]
    · simp [hc]
  · rw [hwaiting]
    exact List.length_eq_length_filter_add (inPath f.path)

/-- 断片の揃わないファイルを飛ばしても、関係は保たれる。 -/
theorem Written.skip (h : Written counts g s files (f.path :: paths) st added) (hf : f ∈ files)
    (hnot : f.path ∉ paths) (hwaiting : st'.waiting = st.waiting.filter fun c => c.path != f.path)
    (hlt : ¬ Complete counts g f.path) (hstore : st'.store = st.store)
    (hstored : st'.stored = st.stored) : Written counts g s files paths st' added := by
  obtain ⟨hrest, hsplit⟩ := h.waiting_next hnot hwaiting
  have hwithin := h.within
  refine ⟨?_, by rw [hstored, h.count], h.fresh, h.content, fun row hrow hin => ?_, ?_, hrest,
    by omega, fun hall => absurd (hall f hf) hlt⟩
  · rw [hstore]
    exact h.rows
  · exact h.past row hrow (List.mem_cons_of_mem f.path hin)
  · rw [hstore]
    exact h.lastId

/-- 断片の揃ったファイルを入れ替えて記録しても、関係は保たれる。 -/
theorem Written.replace (h : Written counts g s files (f.path :: paths) st added) (hs : st.Sound n)
    (hnot : f.path ∉ paths) (hwaiting : st'.waiting = st.waiting.filter fun c => c.path != f.path)
    {m : Nat} {t : Store}
    (ht : st.store.replaceFile f.path (st.waiting.filter (inPath f.path)) = .ok (m, t))
    (hstore : st'.store = recorded hashes g.failed t f.path)
    (hstored : st'.stored = st.stored + m) :
    ∃ added', Written counts g s files paths st' added' := by
  obtain ⟨hrest, hsplit⟩ := h.waiting_next hnot hwaiting
  have hwithin := h.within
  obtain ⟨hm, new, hrows, hcontent, hnew⟩ := hs.rows_replaceFile ht
  have hlength : new.length = (st.waiting.filter (inPath f.path)).length := by
    simpa using congrArg List.length hcontent
  obtain ⟨hrecord, -, hlast⟩ := recorded_frame hashes g.failed t f.path
  obtain ⟨kept, hkept, hsub⟩ := h.rows
  refine ⟨added ++ new, ⟨kept.filter fun r => !Store.inFile f.path r, ?_,
    List.filter_sublist.trans hsub⟩, ?_, ?_, ?_, ?_, ?_, hrest, by omega, fun hall => ?_⟩
  · -- 入れ替えで消えるのは、前からある行だけである
    have hstay : (added.filter fun r => !Store.inFile f.path r) = added := by
      refine List.filter_eq_self.mpr fun row hrow => ?_
      have hne : row.path ≠ f.path := fun heq => h.past row hrow (heq ▸ List.mem_cons_self)
      simpa [Store.inFile] using hne
    rw [hstore, hrecord, hrows, Store.dropFile, hkept, List.filter_append, hstay,
      List.append_assoc]
  · rw [List.length_append, h.count, hlength, hstored, hm]
  · intro row hrow
    rcases List.mem_append.mp hrow with hrow | hrow
    · exact h.fresh row hrow
    · exact Nat.lt_of_le_of_lt h.lastId (hnew row hrow).2
  · intro row hrow
    rcases List.mem_append.mp hrow with hrow | hrow
    · exact h.content row hrow
    · have hmem : row.content ∈ (st.waiting.filter (inPath f.path)).map Chunk.content :=
        hcontent ▸ List.mem_map_of_mem hrow
      rw [h.filter_waiting List.mem_cons_self] at hmem
      exact (List.filter_sublist.map _).subset hmem
  · intro row hrow hin
    rcases List.mem_append.mp hrow with hrow | hrow
    · exact h.past row hrow (List.mem_cons_of_mem f.path hin)
    · rw [(hnew row hrow).1] at hin
      exact hnot hin
  · rw [hstore, hlast]
    exact Nat.le_trans h.lastId (Store.lastId_le_replaceFile ht)
  · have hwhole := h.whole hall
    omega

/-- **一つのファイルの保存は、行と数の関係を保つ。** -/
theorem Written.storeFile {position : Nat}
    (h : Written counts g s files (f.path :: paths) st added) (hs : st.Sound n) (hf : f ∈ files)
    (hnot : f.path ∉ paths)
    (hone : Engine.storeFile counts hashes g.failed total st position f.path = .ok st') :
    ∃ added', Written counts g s files paths st' added' := by
  obtain ⟨hwaiting, ⟨hlt, hstore, hstored⟩ | ⟨-, m, t, ht, hstore, hstored⟩⟩ :=
    storeFile_cases counts hashes g.failed total hone
  · rw [h.filter_waiting List.mem_cons_self] at hlt
    exact ⟨added, h.skip hf hnot hwaiting (Nat.not_le.mpr hlt) hstore hstored⟩
  · exact h.replace hs hnot hwaiting ht hstore hstored

end Step

/-- **ファイルの列の保存も、行と数の関係を保つ。** -/
theorem Written.storeFiles : ∀ {fs : List SourceFile} {st st' : Storing} {added : List Row}
    {position : Nat}, Written counts g s files (fs.map (·.path)) st added → st.Sound n →
    fs ⊆ files → (fs.map (·.path)).Nodup →
    Engine.storeFiles counts hashes g.failed total st position fs = (.ok (), st') →
    ∃ added', Written counts g s files [] st' added'
  | [], st, st', added, _, h, _, _, _, hall => by
    cases hall
    exact ⟨added, h⟩
  | f :: fs, st, st', added, position, h, hs, hsub, hn, hall => by
    obtain ⟨hnot, hnodup⟩ := List.nodup_cons.mp hn
    obtain ⟨st₁, hone, hsound, -⟩ :=
      storeFile_spec counts hashes g.failed total hs position f.path
    unfold Engine.storeFiles at hall
    rw [hone] at hall
    obtain ⟨added₁, hnext⟩ := h.storeFile hs (hsub List.mem_cons_self) hnot hone
    exact hnext.storeFiles hsound (fun x hx => hsub (List.mem_cons_of_mem f hx)) hnodup hall

end Storing

/-! ## 要約 -/

namespace Request

variable {σ : Type} {p : Provider σ} {e : Engine} {r : Request σ} {loader : Loader}

theorem totalChunks_eq (e : Engine) (r : Request σ) :
    sumOf ((r.outcomes e).map (·.chunks.length)) = (r.chunks e).length := by
  unfold chunks
  induction r.outcomes e with
  | nil => rfl
  | cons o os ih => rw [List.map_cons, sumOf_cons, ih, List.flatMap_cons, List.length_append]

/-- 結果を数え直すのは、渡されたファイルの数だけである。 -/
theorem relabel_eq (r : Request σ) (summary : IndexSummary) :
    r.relabel summary = { summary with totalFiles := (r.relabel summary).totalFiles } := by
  cases r <;> rfl

/-- 保存を始めるときの行は前からある行で、番号は前の続きである。 -/
theorem base_frame (e : Engine) (r : Request σ) :
    (r.base e).rows.Sublist e.store.rows ∧ (r.base e).lastId = e.store.lastId := by
  cases r with
  | index full stop schedule files session =>
    cases full with
    | true =>
      have hframe := Store.dropFiles_frame
        (e.store.clear.files.filter fun path => files.all fun f => f.path != path) e.store.clear
      exact ⟨hframe.1.trans (List.nil_sublist _), hframe.2⟩
    | false => exact Store.dropFiles_frame _ e.store
  | reindex file session => exact ⟨.refl _, rfl⟩

/-- 長さの確かめを通った成果は、断られずに最後まで保存される。 -/
theorem storing_written (hr : e.registry.Agrees loader) (hcan : e.store.Canonical) (hd : r.Distinct)
    {g : Generation} (hg : r.generated p e = .ok g)
    (hok : checkDimensions (r.base e) g.embedded = .ok ()) :
    ∃ st added, r.storing e g = (.ok (), st)
      ∧ Written (chunkCounts (r.todo e) (r.outcomes e)) g (r.base e) (r.todo e) [] st added := by
  obtain ⟨n, -, hacc, -⟩ := generation_accounts hr p.answers_anything hg
  obtain ⟨m, hsound⟩ := sound_of_accounts (canonical_base hcan r) (hd.todo e) hacc hok
  have hstart : Written (chunkCounts (r.todo e) (r.outcomes e)) g (r.base e) (r.todo e)
      ((r.todo e).map (·.path)) { store := r.base e, waiting := g.embedded } [] := by
    refine ⟨⟨_, (List.append_nil _).symm, .refl _⟩, rfl, nofun, nofun, nofun, Nat.le_refl _, ?_,
      by simp, fun _ => by simp⟩
    refine (List.filter_eq_self.mpr fun c hc => ?_).symm
    obtain ⟨f, hf, hcf⟩ := List.mem_flatMap.mp (mem_pieces_of_embedded hacc c hc)
    exact decide_eq_true (List.mem_map.mpr ⟨f, hf, (path_of_mem_alone hcf).symm⟩)
  obtain ⟨st, hall, -⟩ := storeFiles_spec (chunkCounts (r.todo e) (r.outcomes e))
    (hashesOf e.digest (r.todo e)) g.failed (r.todo e).length hsound (hd.todo e) 1
  obtain ⟨added, hwritten⟩ := hstart.storeFiles hsound (List.Subset.refl _) (hd.todo e) hall
  exact ⟨st, added, hall, hwritten⟩

/-- 途中でやめていなければ、どのファイルの断片もすべて勘定に入る。 -/
theorem complete_of_finished (hr : e.registry.Agrees loader) (hd : r.Distinct) {g : Generation}
    (hg : r.generated p e = .ok g) (hgo : g.cancelled = false) :
    ∀ f ∈ r.todo e, Complete (chunkCounts (r.todo e) (r.outcomes e)) g f.path := by
  intro f hf
  obtain ⟨n, -, hacc, hcancel⟩ := generation_accounts hr p.answers_anything hg
  unfold Complete outcomes
  rw [chunkCounts_eq (chunked_chunks hr r.schedule (r.todo e)).1,
    lastOf_map (fun f => (Chunking.alone e.limits loader f).length) (hd.todo e) hf,
    Option.getD_some]
  exact Nat.le_of_eq (length_alone_of_finished (hd.todo e) hf hacc hcancel hgo)

/-- 埋め込めた断片と埋め込めなかった断片は、合わせて断片の数を超えない。途中でやめたときに限り、
処理していない断片が残る。 -/
theorem generated_counts (hr : e.registry.Agrees loader) (hd : r.Distinct) {g : Generation}
    (hg : r.generated p e = .ok g) :
    g.embedded.length + g.failed.length ≤ (r.chunks e).length
    ∧ (g.cancelled = true ↔ g.embedded.length + g.failed.length < (r.chunks e).length) := by
  obtain ⟨-, n, hn, hsplit, hcancel, -⟩ := generated_accounts hr hd hg
  have hlength := hsplit.length_eq
  rw [List.length_take, Nat.min_eq_left hn, List.length_map, List.length_map] at hlength
  rw [← hlength]
  exact ⟨hn, hcancel⟩

/-- 要約を返した依頼は、書いた行の数を要約に写している。途中でやめていなければ、埋め込めた断片を
すべて書いている。 -/
theorem perform_summarized (hr : e.registry.Agrees loader) (hcan : e.store.Canonical)
    (hd : r.Distinct) {summary : IndexSummary} (hok : (r.perform p e).result = .ok summary) :
    ∃ g kept added, r.generated p e = .ok g
      ∧ summary = { summaryOf (r.todo e) (r.outcomes e) g added.length with
        totalFiles := summary.totalFiles }
      ∧ (r.perform p e).engine.store.rows = kept ++ added ∧ kept.Sublist e.store.rows
      ∧ (∀ row ∈ added, e.store.lastId < row.id ∧ row.content ∈ g.embedded.map Chunk.content)
      ∧ added.length ≤ g.embedded.length
      ∧ (g.cancelled = false → added.length = g.embedded.length) := by
  obtain ⟨hsub, hlast⟩ := base_frame e r
  rcases r.perform_cases p e with ⟨hnil, hres, heng⟩ | ⟨⟨err, herr⟩, -⟩ |
    ⟨g, hg, hcheck, hres, hstore⟩
  · refine ⟨_, (r.base e).rows, [], generated_of_todo_nil p hnil, ?_, ?_, hsub, nofun,
      Nat.le_refl _, fun _ => rfl⟩
    · rw [Except.ok.inj (hok.symm.trans hres)]
      unfold outcomes chunked
      rw [hnil, Chunking.chunkThrough_nil]
      exact r.relabel_eq _
    · rw [heng, List.append_nil]
  · rw [herr] at hok
    cases hok
  · obtain ⟨st, added, hstoring, hwritten⟩ := storing_written hr hcan hd hg hcheck
    rw [hstoring] at hres hstore
    obtain ⟨kept, hrows, hkept⟩ := hwritten.rows
    -- 最後まで保存すれば、待っている断片は残らない
    have hwaiting : st.waiting.length = 0 := by simp [hwritten.waiting]
    have hcount := hwritten.count
    have hwithin := hwritten.within
    refine ⟨g, kept, added, hg, ?_, ?_, hkept.trans hsub, ?_, by omega, fun hgo => ?_⟩
    · rw [Except.ok.inj (hok.symm.trans hres), hcount]
      exact r.relabel_eq _
    · rw [hstore, hrows]
    · intro row hrow
      rw [← hlast]
      exact ⟨hwritten.fresh row hrow, hwritten.content row hrow⟩
    · have hwhole := hwritten.whole (complete_of_finished hr hd hg hgo)
      omega

end Request

section

variable {σ : Type} {e : Engine}

/--
**要約は本当のことを伝える。**

達しうるどの状態でも、提供元が何を答えても、依頼が要約を返せば、要約は次のとおりである。

* 保存した断片の数は、書いた行の数である。書いた行の番号は、前からあるどの行よりも後である。
* 保存した数と埋め込めなかった数の和は、断片の数を超えない。途中でやめていなければ等しい。
* 成功したのは、すべての断片を保存したとき、そのときに限る。
* 失敗の一覧は、切れなかった理由をファイルの順に並べ、埋め込めなかった断片を処理した順に一つずつ
  続けたものである。
-/
theorem summary_truthful (he : Reachable e) (p : Provider σ) (r : Request σ) (hd : r.Distinct)
    {summary : IndexSummary} (hok : (r.perform p e).result = .ok summary) :
    ∃ g, r.generated p e = .ok g
    ∧ summary.totalChunks = (r.chunks e).length
    ∧ summary.failedChunks = g.failed.length
    ∧ summary.cancelled = g.cancelled
    ∧ (∃ kept added, (r.perform p e).engine.store.rows = kept ++ added
      ∧ kept.Sublist e.store.rows ∧ (∀ old ∈ e.store.rows, ∀ row ∈ added, old.id < row.id)
      ∧ (∀ row ∈ added, row.content ∈ g.embedded.map Chunk.content)
      ∧ added.length = summary.successfulChunks)
    ∧ summary.successfulChunks + summary.failedChunks ≤ summary.totalChunks
    ∧ (summary.cancelled = false →
      summary.successfulChunks + summary.failedChunks = summary.totalChunks)
    ∧ (summary.success = true ↔ summary.successfulChunks = summary.totalChunks)
    ∧ summary.errors
      = (((r.todo e).zip (r.outcomes e)).filterMap fun (f, o) => o.error.map fun reason =>
          f.path ++ ": " ++ reason ++ " (indexed with " ++ o.method.name ++ " chunking)")
        ++ g.failed.map (fun f => f.chunk.id ++ ": " ++ f.reason)
    ∧ List.Forall₂ (Chunking.Settled e.limits e.registry.loader) (r.todo e) (r.outcomes e)
    ∧ ((r.chunks e).map (·.id)).Nodup
    ∧ ∃ n, Interleaved (g.embedded.map Chunk.bare) (g.failed.map (·.chunk.bare))
        ((r.chunks e).take n)
      ∧ (g.cancelled = true ↔ n < (r.chunks e).length) := by
  obtain ⟨⟨loader, hagrees⟩, hcan⟩ := he.sound
  have hsound := he.store.sound
  obtain ⟨g, kept, added, hg, hsummary, hrows, hkept, hadded, hle, hall⟩ :=
    Request.perform_summarized hagrees hcan hd hok
  obtain ⟨hids, n, -, hsplit, hcancel, -⟩ := Request.generated_accounts hagrees hd hg
  obtain ⟨hwithin, hstopped⟩ := Request.generated_counts hagrees hd hg
  have hfinished : g.cancelled = false →
      added.length + g.failed.length = (r.chunks e).length := by
    intro hgo
    have hnot := hstopped.not.mp ((Bool.not_eq_true _).mpr hgo)
    have hrest := hall hgo
    omega
  have htotal := (congrArg IndexSummary.totalChunks hsummary).trans (r.totalChunks_eq e)
  have hstored := congrArg IndexSummary.successfulChunks hsummary
  have hfailed := congrArg IndexSummary.failedChunks hsummary
  have hcancelled := congrArg IndexSummary.cancelled hsummary
  have hsuccess := congrArg IndexSummary.success hsummary
  have herrors := congrArg IndexSummary.errors hsummary
  simp only [summaryOf] at hstored hfailed hcancelled hsuccess herrors
  refine ⟨g, hg, htotal, hfailed, hcancelled, ⟨kept, added, hrows, hkept, ?_,
    fun row hrow => (hadded row hrow).2, hstored.symm⟩, by omega, ?_, ?_, ?_, ?_, hids, n, hsplit,
    hcancel⟩
  · intro old hold row hrow
    exact Nat.lt_of_le_of_lt (hsound.bounded old hold) (hadded row hrow).1
  · intro hgo
    rw [hstored, hfailed, htotal]
    exact hfinished (hcancelled.symm.trans hgo)
  · rw [hsuccess, hstored, htotal, Bool.and_eq_true, List.isEmpty_iff, Bool.not_eq_true']
    constructor
    · rintro ⟨hnone, hgo⟩
      have hcount := hfinished hgo
      rwa [hnone, List.length_nil, Nat.add_zero] at hcount
    · intro heq
      -- 途中でやめたときは、処理していない断片が必ず残る
      have hgo : g.cancelled = false := by
        rw [← Bool.not_eq_true, hstopped]
        omega
      refine ⟨?_, hgo⟩
      rw [← List.length_eq_zero_iff]
      omega
  · exact herrors
  · rw [hagrees.loader_eq]
    exact (Chunking.chunkThrough_settled hagrees e.limits _ r.schedule (r.todo e)).1

end

/-- 具合の悪い提供元で索引づけした要約。 -/
def partialSummary : IndexSummary where
  totalFiles := 2
  totalChunks := 2
  successfulChunks := 1
  failedChunks := 1
  errors := ["b.txt:1-1: no vector returned"]

/-- 二つめの断片が埋め込めなければ、書いた行は一つで、その断片が失敗の一覧に挙がる。 -/
theorem summary_truthful_partial :
    Reachable fresh ∧ partialRequest.Distinct
    ∧ (partialRequest.perform flaky fresh).result = .ok partialSummary
    ∧ ∃ g, partialRequest.generated flaky fresh = .ok g
      ∧ g.failed.map (fun f => f.chunk.id ++ ": " ++ f.reason) = partialSummary.errors
      ∧ ∃ kept added, (partialRequest.perform flaky fresh).engine.store.rows
          = kept ++ added ∧ kept.Sublist [] ∧ added.length = 1
        ∧ ∀ row ∈ added, row.content ∈ g.embedded.map Chunk.content := by
  have hnew : Reachable fresh := .new {} .builtin Digest.hex true
  have hd : partialRequest.Distinct := by
    show (notes.map (·.path)).Nodup
    decide
  have hres : (partialRequest.perform flaky fresh).result
      = .ok partialSummary := by
    have hread : (partialRequest.perform flaky
        fresh).result.toOption.map id = some partialSummary := by
      decide +kernel
    obtain ⟨summary, hrun, rfl⟩ := exists_ok_of_toOption hread
    exact hrun
  have hnone : ((partialRequest.todo fresh).zip
      (partialRequest.outcomes fresh)).all (·.2.error.isNone) = true := by
    decide +kernel
  obtain ⟨g, hg, -, -, -, ⟨kept, added, hrows, hkept, -, hcontent, hcount⟩, -, -, -, herrors, -⟩ :=
    summary_truthful hnew flaky partialRequest hd hres
  refine ⟨hnew, hd, hres, g, hg, ?_, kept, added, hrows, hkept, hcount, hcontent⟩
  rw [herrors, List.filterMap_eq_nil_iff.mpr, List.nil_append]
  rintro ⟨f, o⟩ hfo
  have hquiet := List.all_eq_true.mp hnone (f, o) hfo
  rw [Option.map_eq_none_iff]
  simpa using hquiet

end Engine

end CodeSearch
