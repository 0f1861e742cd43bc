import CodeSearch.Proofs.Embedding.Recording
import CodeSearch.Proofs.Engine.Operations
import CodeSearch.Proofs.Engine.Rebuild

/-!
# やり残しだけをやり直す

索引づけの次に、同じファイルで空にせずに索引づけをすると、前の回でやり残したファイルだけを切って
埋め込む。やり残しは、埋め込めない断片のあったファイルと、送らずに残した断片のあるファイルとである。

やり直すかどうかは、記録した要約だけで決まる。記録は、ファイルを飛ばせば前のままで、入れ替えれば
消え、埋め込めない断片がなければ付く。

* `Request.stored` — 要約を返した依頼の後の、ファイルごとの行と記録
* `Request.hash?_index_iff` — 要約が記録されているのは、やり残しのないファイルである
* `index_resumes` — 次の索引づけは、やり残しだけの索引づけである
-/

namespace CodeSearch

namespace Engine

/-- ほかのファイルの行も記録もなければ、消すものはない。 -/
theorem sweep_eq_self {store : Store} {files : List SourceFile}
    (h : ∀ path, path ∉ files.map (·.path) → Store.Absent path store) :
    sweep store files = store := by
  have hnone : (store.files.filter fun path => files.all fun f => f.path != path) = [] := by
    refine List.filter_eq_nil_iff.mpr fun path hin hall => ?_
    refine (h path fun hmem => ?_).notMem_files hin
    obtain ⟨f, hf, rfl⟩ := List.mem_map.mp hmem
    simpa using List.all_eq_true.mp hall f hf
  unfold sweep
  rw [hnone]
  rfl

/-! ## やり残し -/

/-- 埋め込めない断片のあったファイルか、送らずに残した断片 `rest` のあるファイルか。 -/
def unfinished (g : Generation) (rest : List Chunk) (f : SourceFile) : Bool :=
  (g.failed.any fun x => x.chunk.path == f.path) || rest.any (inPath f.path)

section

variable {limits : ChunkLimits} {loader : Loader} {files : List SourceFile} {g : Generation}
  {R : String → Vec → Prop} {normalizes segment : Bool} {n : Nat}

/-- 処理した断片の後ろが残っているファイルは、断片が出揃っていないファイルである。 -/
theorem unfinished_iff
    (hacc : g.Accounts R normalizes segment ((pieces limits loader files).take n))
    (f : SourceFile) :
    unfinished g ((pieces limits loader files).drop n) f = true
      ↔ failuresIn g.failed f.path ≠ 0
        ∨ (g.embedded.filter (inPath f.path)).length + failuresIn g.failed f.path
          < ((pieces limits loader files).filter (inPath f.path)).length := by
  have hfile := (interleaved_filter hacc f.path).length_eq
  rw [List.length_map, List.length_map, ← failuresIn_eq] at hfile
  have hsplit := congrArg (fun cs => (cs.filter (inPath f.path)).length)
    (List.take_append_drop n (pieces limits loader files))
  simp only [List.filter_append, List.length_append] at hsplit
  unfold unfinished
  rw [Bool.or_eq_true, List.any_eq_true, List.any_eq_true, ← List.length_filter_pos_iff,
    ← List.length_filter_pos_iff]
  show 0 < failuresIn g.failed f.path ∨ _ ↔ _
  omega

end

/-- 内容の違うファイルを保存した後、要約が記録されているのは、断片が出揃い、埋め込めないものもない
ときに限る。 -/
theorem FileStored.hash?_iff {count failures : Nat} {hash path : String} {ready : List Chunk}
    {s t : Store} (h : FileStored count (some hash) ready failures path s t)
    (hne : s.hash? path ≠ some hash) :
    t.hash? path = some hash ↔ ¬ (failures ≠ 0 ∨ ready.length + failures < count) := by
  unfold FileStored at h
  split at h
  · next hlt =>
    -- 飛ばしたファイルの記録は前のままである
    rw [h.hash?_eq]
    exact ⟨fun heq => absurd heq hne, fun hnot => absurd (Or.inr hlt) hnot⟩
  · next hge =>
    rw [h.2]
    by_cases hzero : failures = 0
    · simpa [hzero] using hge
    · simp [hzero]

namespace Request

variable {σ : Type} {p : Provider σ} {e : Engine} {r : Request σ} {loader : Loader}

/-- **要約を返した依頼の後の、ファイルごとの行と記録。** -/
theorem stored (hr : e.registry.Agrees loader) (hcan : e.store.Canonical) (hd : r.Distinct)
    {summary : IndexSummary} (hok : (r.perform p e).result = .ok summary) :
    ∃ g, r.generated p e = .ok g
      ∧ (∀ q, q ∉ (r.todo e).map (·.path) → Store.Untouched q (r.base e)
        (r.perform p e).engine.store)
      ∧ ∀ f ∈ r.todo e, FileStored (Chunking.alone e.limits loader f).length
        (some (e.digest f.text)) (g.embedded.filter (inPath f.path))
        (failuresIn g.failed f.path) f.path (r.base e) (r.perform p e).engine.store := by
  rcases r.perform_cases p e with ⟨hnil, -, heng⟩ | ⟨⟨err, herr⟩, -⟩ | ⟨g, hg, hcheck, -, hstore⟩
  · refine ⟨_, generated_of_todo_nil p hnil, fun q _ => ?_, ?_⟩
    · rw [heng]
      exact .refl q (r.base e)
    · rw [hnil]
      exact nofun
  · rw [herr] at hok
    cases hok
  · obtain ⟨n, -, hacc, -⟩ := generation_accounts hr p.answers_anything hg
    obtain ⟨st, hall, hothers, heach⟩ := storeFiles_stored e.digest (r.todo e).length
      (canonical_base hcan r) (hd.todo e) hacc hcheck
    have hstoring : r.storing e g = (.ok (), st) := by
      unfold storing outcomes
      rw [chunkCounts_eq (chunked_chunks hr r.schedule (r.todo e)).1]
      exact hall
    rw [hstore, hstoring]
    exact ⟨g, hg, hothers, heach⟩

/-- 切って埋め込むのは、要約が記録されていないファイルである。 -/
theorem hash?_of_mem_todo {full : Bool} {stop : Nat → Bool} {schedule : List Nat}
    {files : List SourceFile} {s : Session σ} {f : SourceFile}
    (hf : f ∈ (index full stop schedule files s).todo e) :
    ((index full stop schedule files s).base e).hash? f.path ≠ some (e.digest f.text) := by
  unfold todo changed at hf
  unfold base
  simpa using (List.mem_filter.mp hf).2

/-- **索引づけの後に要約が記録されているのは、やり残しのないファイルである。** -/
theorem hash?_index_iff (hr : e.registry.Agrees loader) (hcan : e.store.Canonical) {full : Bool}
    {stop : Nat → Bool} {schedule : List Nat} {files : List SourceFile} {s : Session σ}
    (hn : (files.map (·.path)).Nodup) {summary : IndexSummary}
    (hok : (Engine.index p stop schedule full e files s).result = .ok summary) :
    ∃ g n, (index full stop schedule files s).generated p e = .ok g
      ∧ Interleaved (g.embedded.map Chunk.bare) (g.failed.map (·.chunk.bare))
        (((index full stop schedule files s).chunks e).take n)
      ∧ (g.cancelled = true ↔ n < ((index full stop schedule files s).chunks e).length)
      ∧ ∀ f ∈ files, (Engine.index p stop schedule full e files s).engine.store.hash? f.path
          = some (e.digest f.text)
        ↔ unfinished g (((index full stop schedule files s).chunks e).drop n) f = false := by
  have hd : (index full stop schedule files s).Distinct := hn
  obtain ⟨g, hg, hothers, heach⟩ := stored (p := p) hr hcan hd hok
  obtain ⟨-, n, -, hsplit, hcancel, hacc⟩ := generated_accounts hr hd hg
  refine ⟨g, n, hg, hsplit, hcancel, ?_⟩
  intro f hf
  rw [chunks_eq hr, ← Bool.not_eq_true, unfinished_iff hacc]
  by_cases htodo : f ∈ (index full stop schedule files s).todo e
  · rw [filter_pieces (hd.todo e) f htodo]
    exact (heach f htodo).hash?_iff (hash?_of_mem_todo htodo)
  · have hnot : f.path ∉ ((index full stop schedule files s).todo e).map (·.path) :=
      fun hin => htodo (mem_todo_of_path hd hf hin)
    have hhash : (Engine.index p stop schedule full e files s).engine.store.hash? f.path
        = some (e.digest f.text) :=
      (hothers f.path hnot).hash?_eq.trans (hash?_of_notMem_todo hf htodo)
    -- 切らなかったファイルには、送る断片も埋め込めない断片もない
    have hnone : (pieces e.limits loader ((index full stop schedule files s).todo e)).filter
        (inPath f.path) = [] := filter_pieces_of_notMem hnot
    have hfile := (interleaved_filter hacc f.path).length_eq
    have hsub := ((List.take_sublist n
      (pieces e.limits loader ((index full stop schedule files s).todo e))).filter
        (inPath f.path)).length_le
    rw [List.length_map, List.length_map, ← failuresIn_eq] at hfile
    rw [hnone, List.length_nil] at hsub ⊢
    have hzero : failuresIn g.failed f.path = 0 := by omega
    simp [hhash, hzero]

end Request

section

variable {σ : Type} {e : Engine}

/-- ファイル `todo` だけの索引づけ。要約には、渡されたファイルの数 `count` を写す。 -/
def indexOnly (p : Provider σ) (stop : Nat → Bool) (schedule : List Nat) (e : Engine) (count : Nat)
    (todo : List SourceFile) (s : Session σ) : IndexRun σ :=
  let r := run p stop schedule e todo (hashesOf e.digest todo) s
  { r with result := r.result.map fun summary => { summary with totalFiles := count } }

/-- 消すもののない索引づけは、要約の記録されていないファイルだけの索引づけである。 -/
theorem index_eq_indexOnly {files : List SourceFile} (hsweep : sweep e.store files = e.store)
    (p : Provider σ) (stop : Nat → Bool) (schedule : List Nat) (s : Session σ) :
    index p stop schedule false e files s
      = indexOnly p stop schedule e files.length (changed e.digest e.store files) s := by
  rw [index, if_neg Bool.false_ne_true, hsweep]
  rfl

/--
**次の索引づけは、やり残しだけをやり直す。**

達しうるどの状態でも、提供元が何を答えても、パスの違うファイルの索引づけが要約を返したなら、同じファイルで
空にせずに続けてする索引づけは、やり残しだけの索引づけである。やり残しは、埋め込めない断片のあった
ファイルと、送らずに残した断片のあるファイルとで、断片が残るのは途中でやめたときに限る。

とくに、成功した索引づけの次は、提供元を一度も呼ばずに成功し、何も変えない。
-/
theorem index_resumes (he : Reachable e) (p : Provider σ) (stop : Nat → Bool)
    (schedule : List Nat) (full : Bool) (files : List SourceFile) (s : Session σ)
    (hn : (files.map (·.path)).Nodup) {summary : IndexSummary}
    (hok : (index p stop schedule full e files s).result = .ok summary) :
    ∃ g n, (Request.index full stop schedule files s).generated p e = .ok g
    ∧ Interleaved (g.embedded.map Chunk.bare) (g.failed.map (·.chunk.bare))
      (((Request.index full stop schedule files s).chunks e).take n)
    ∧ (g.cancelled = true ↔ n < ((Request.index full stop schedule files s).chunks e).length)
    ∧ (∀ (τ : Type) (q : Provider τ) (stop' : Nat → Bool) (schedule' : List Nat)
        (t : Session τ),
      index q stop' schedule' false (index p stop schedule full e files s).engine files t
        = indexOnly q stop' schedule' (index p stop schedule full e files s).engine files.length
          (files.filter
            (unfinished g (((Request.index full stop schedule files s).chunks e).drop n))) t)
    ∧ (summary.success = true → ∀ (τ : Type) (q : Provider τ) (stop' : Nat → Bool)
        (schedule' : List Nat) (t : Session τ),
      (index q stop' schedule' false (index p stop schedule full e files s).engine files t).result
        = .ok { success := true, totalFiles := files.length }
      ∧ (index q stop' schedule' false (index p stop schedule full e files s).engine files t).engine
        = (index p stop schedule full e files s).engine
      ∧ (index q.recorded stop' schedule' false (index p stop schedule full e files s).engine files
        t.recording).session.calls = []) := by
  obtain ⟨⟨loader, hagrees⟩, hcan⟩ := he.sound
  obtain ⟨g, n, hg, hsplit, hcancel, hiff⟩ := Request.hash?_index_iff hagrees hcan hn hok
  have hsweep : sweep (index p stop schedule full e files s).engine.store files
      = (index p stop schedule full e files s).engine.store :=
    sweep_eq_self fun path hnot => absent_index hagrees hcan hn hnot
  have hdigest : (index p stop schedule full e files s).engine.digest = e.digest :=
    (Request.perform_frame hagrees hcan p (.index full stop schedule files s)).1.2
  have hchanged : changed e.digest (index p stop schedule full e files s).engine.store files
      = files.filter
        (unfinished g (((Request.index full stop schedule files s).chunks e).drop n)) := by
    refine List.filter_congr fun f hf => ?_
    rw [Bool.eq_iff_iff, bne_iff_ne, ne_eq, hiff f hf, Bool.not_eq_false]
  refine ⟨g, n, hg, hsplit, hcancel, ?_, ?_⟩
  · intro τ q stop' schedule' t
    rw [index_eq_indexOnly hsweep, hdigest, hchanged]
  · intro hsuccess τ q stop' schedule' t
    have hnone : changed e.digest (index p stop schedule full e files s).engine.store files
        = [] := by
      refine List.filter_eq_nil_iff.mpr fun f hf => ?_
      rw [Bool.not_eq_true, bne_eq_false_iff_eq]
      exact Request.hash?_of_success (r := .index full stop schedule files s) hagrees hcan hn hok
        hsuccess hf
    rw [index_eq_indexOnly hsweep, index_eq_indexOnly hsweep, hdigest, hnone]
    exact ⟨rfl, rfl, rfl⟩

end

/-! ### 欠けた索引づけの次 -/

/-- 具合の悪い提供元で、一つめのファイルだけが済んだ状態。 -/
def partialEngine : Engine := (partialRequest.perform flaky fresh).engine

/-- 具合のよくなった提供元でやり直せば、残りの一つの断片だけを送って成功し、その次は一度も呼ばない。 -/
theorem index_resumes_partial :
    Reachable fresh ∧ (notes.map (·.path)).Nodup
    ∧ (∃ g n, partialRequest.generated flaky fresh = .ok g
      ∧ index flaky (fun _ => false) [] false partialEngine notes { peer := true }
        = indexOnly flaky (fun _ => false) [] partialEngine 2 (notes.filter
          (unfinished g ((partialRequest.chunks fresh).drop n)))
          { peer := true })
    ∧ ∃ summary, (index flaky (fun _ => false) [] false partialEngine notes { peer := true }).result
        = .ok summary
      ∧ summary.totalChunks = 1 ∧ summary.success = true
      ∧ (index flaky.recorded (fun _ => false) [] false
          (index flaky (fun _ => false) [] false partialEngine notes { peer := true }).engine notes
          { peer := { peer := false } }).session.calls = [] := by
  have hnew : Reachable fresh := .new {} .builtin Digest.hex true
  have hn : (notes.map (·.path)).Nodup := by decide
  have hfirst : (index flaky (fun _ => false) [] false fresh notes
      { peer := false }).result.toOption.map (·.success) = some false := by
    decide +kernel
  have hsecond : (index flaky (fun _ => false) [] false partialEngine notes
      { peer := true }).result.toOption.map (fun s => (s.totalChunks, s.success))
      = some (1, true) := by
    decide +kernel
  refine ⟨hnew, hn, ?_, ?_⟩
  · obtain ⟨summary, hrun, -⟩ := exists_ok_of_toOption hfirst
    obtain ⟨g, n, hg, -, -, hagain, -⟩ := index_resumes hnew flaky _ [] false notes _ hn hrun
    exact ⟨g, n, hg, hagain Bool flaky (fun _ => false) [] { peer := true }⟩
  · obtain ⟨summary, hrun, hread⟩ := exists_ok_of_toOption hsecond
    obtain ⟨htotal, hsuccess⟩ := Prod.mk.inj hread
    obtain ⟨-, -, -, -, -, -, hquiet⟩ :=
      index_resumes (hnew.perform flaky partialRequest) flaky _ [] false notes _ hn hrun
    exact ⟨summary, hrun, htotal, hsuccess,
      (hquiet hsuccess Bool flaky (fun _ => false) [] { peer := false }).2.2⟩

end Engine

end CodeSearch
