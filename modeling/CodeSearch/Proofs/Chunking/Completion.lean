import CodeSearch.Proofs.Chunking.Pool

/-!
# 残りの手番を補えば、全員がやめる

作業者の一人だけが進むときの様子は、手番を数えなくても書ける。切っている途中なら切り終えて書き、
手が空いていれば残りのファイルを順に切り、取るファイルがなくなればやめる。だから作業者を番号の順に
一人ずつやめるまで進めれば、どこで終わった列の続きとしても、全員がやめる。

* `run_busy` / `workers_run_free` — 一人だけが進んだ後の様子
* `finished_turnsLeft` — 残りの手番の後では、全員がやめている
* `chunkThrough_settled` — 補って切った結果は、一つずつ `Settled` のとおりである
* `chunkThrough_of_finished` — 列だけで全員がやめていれば、補う手番はない
-/

namespace CodeSearch

namespace Pool

variable {limits : ChunkLimits} {files : List SourceFile} {p : Pool} {w : Nat}

theorem run_append (limits : ChunkLimits) (files : List SourceFile) (p : Pool)
    (first rest : List Nat) :
    p.run limits files (first ++ rest) = (p.run limits files first).run limits files rest :=
  List.foldl_append

/-! ## 一人だけが進む -/

/-- 切っている途中の作業者は、保管に一度問う。 -/
theorem turn_ask {index : Nat} {job : Access ChunkOutcome}
    (hw : p.workers[w]? = some (.busy index job)) (hjob : job.result? = none) :
    p.turn limits files w
      = { p with
          registry := (job.step p.registry).2
          workers := p.workers.set w (.busy index (job.step p.registry).1) } := by
  unfold turn
  rw [hw]
  simp only [hjob]

/-- 切っている作業者は、続けて問い、切り終えて結果を書く。 -/
theorem run_busy {index : Nat} : ∀ (job : Access ChunkOutcome) {p : Pool},
    p.workers[w]? = some (.busy index job) →
    p.run limits files (List.replicate (job.asks p.registry + 1) w)
      = { p with
          registry := (job.run p.registry).2
          results := p.results.set index (some (job.run p.registry).1)
          workers := p.workers.set w .free }
  | .done outcome, p, hw => by
    show p.turn limits files w = _
    unfold turn
    rw [hw]
    rfl
  | .supports l next, p, hw => by
    have hlt : w < p.workers.length := (List.getElem?_eq_some_iff.mp hw).1
    have hrest := run_busy (next (p.registry.supports l))
      (p := { p with workers := p.workers.set w (.busy index (next (p.registry.supports l))) })
      (List.getElem?_set_self hlt)
    rw [List.set_set] at hrest
    show (p.turn limits files w).run limits files (List.replicate _ w) = _
    rw [turn_ask hw rfl]
    exact hrest
  | .get l next, p, hw => by
    have hlt : w < p.workers.length := (List.getElem?_eq_some_iff.mp hw).1
    have hrest := run_busy (next (p.registry.get l).1)
      (p := { p with
        registry := (p.registry.get l).2
        workers := p.workers.set w (.busy index (next (p.registry.get l).1)) })
      (List.getElem?_set_self hlt)
    rw [List.set_set] at hrest
    show (p.turn limits files w).run limits files (List.replicate _ w) = _
    rw [turn_ask hw rfl]
    exact hrest

/-- 手の空いた作業者は、残りのファイルをすべて切ってやめる。 -/
theorem workers_run_free : ∀ (rest : List SourceFile) {p : Pool}, files.drop p.next = rest →
    p.workers[w]? = some .free →
    (p.run limits files (List.replicate (turnsAlone limits p.registry rest) w)).workers
      = p.workers.set w .retired
  | [], p, hrest, hw => by
    have hnone : files[p.next]? = none :=
      List.getElem?_eq_none_iff.mpr (List.drop_eq_nil_iff.mp hrest)
    show (p.turn limits files w).workers = _
    unfold turn
    rw [hw]
    simp only [hnone]
  | f :: fs, p, hrest, hw => by
    have hlt : w < p.workers.length := (List.getElem?_eq_some_iff.mp hw).1
    have hfile : files[p.next]? = some f := by
      rw [← List.head?_drop, hrest]
      rfl
    have hdrop : files.drop (p.next + 1) = fs := by
      rw [← List.tail_drop, hrest]
      rfl
    -- ファイルを取り、切り終えて書くと、残りは `fs` で、また手が空いている
    have htake : p.turn limits files w
        = { p with
            next := p.next + 1
            workers := p.workers.set w (.busy p.next (Chunking.job limits f)) } := by
      unfold turn
      rw [hw]
      simp only [hfile]
    have hsplit : turnsAlone limits p.registry (f :: fs)
        = 1 + ((Chunking.job limits f).asks p.registry + 1)
          + turnsAlone limits ((Chunking.job limits f).run p.registry).2 fs := by
      rw [turnsAlone]
      omega
    rw [hsplit, ← List.replicate_append_replicate, ← List.replicate_append_replicate,
      run_append, run_append]
    show (((p.turn limits files w).run limits files _).run limits files _).workers = _
    have hset := List.getElem?_set_self (a := Worker.busy p.next (Chunking.job limits f)) hlt
    rw [htake, run_busy (Chunking.job limits f) hset]
    refine (workers_run_free fs hdrop ?_).trans ?_
    · rw [List.set_set]
      exact List.getElem?_set_self hlt
    · rw [List.set_set, List.set_set]

/-- 作業者は、その手数だけ進むとやめる。 -/
theorem workers_run_turnsOf (limits : ChunkLimits) (files : List SourceFile) (p : Pool) (w : Nat) :
    (p.run limits files (List.replicate (p.turnsOf limits files w) w)).workers
      = p.workers.set w .retired := by
  unfold turnsOf
  split
  · next hw => exact workers_run_free _ rfl hw
  · next index job hw =>
    have hlt : w < p.workers.length := (List.getElem?_eq_some_iff.mp hw).1
    rw [← List.replicate_append_replicate, run_append, run_busy job hw]
    have hfree : (p.workers.set w .free)[w]? = some .free := List.getElem?_set_self hlt
    refine (workers_run_free _ rfl hfree).trans ?_
    rw [List.set_set]
  · next hw =>
    obtain ⟨hlt, hretired⟩ := List.getElem?_eq_some_iff.mp hw
    rw [← hretired, List.set_getElem_self]
    rfl
  · next hw =>
    rw [List.set_eq_of_length_le (List.getElem?_eq_none_iff.mp hw)]
    rfl

/-! ## 全員がやめるまで -/

/-- 列にない作業者がみなやめていれば、列の作業者が進んだ後には全員がやめている。 -/
theorem finished_run_turnsLeft : ∀ (ws : List Nat) {p : Pool},
    (∀ i x, p.workers[i]? = some x → i ∉ ws → x.isRetired = true) →
    (p.run limits files (p.turnsLeft limits files ws)).finished = true
  | [], p, h => by
    refine List.all_eq_true.mpr fun x hx => ?_
    obtain ⟨i, hi⟩ := List.getElem?_of_mem hx
    exact h i x hi List.not_mem_nil
  | w :: ws, p, h => by
    unfold turnsLeft
    simp only []
    rw [run_append]
    refine finished_run_turnsLeft ws fun i x hi hnot => ?_
    rw [workers_run_turnsOf] at hi
    -- いまやめた作業者か、前からやめている作業者である
    by_cases hretired : x = .retired
    · rw [hretired]
      rfl
    · have hold := getElem?_of_set hi hretired
      refine h i x hold fun hmem => ?_
      rcases List.mem_cons.mp hmem with rfl | hmem
      · rw [List.getElem?_set_self (List.getElem?_eq_some_iff.mp hold).1] at hi
        exact hretired (Option.some.inj hi).symm
      · exact hnot hmem

/-- **残りの手番の後では、全員がやめている。** -/
theorem finished_turnsLeft (limits : ChunkLimits) (files : List SourceFile) (p : Pool) :
    (p.run limits files (p.turnsLeft limits files (List.range p.workers.length))).finished
      = true :=
  finished_run_turnsLeft _ fun _ _ hi hnot =>
    absurd (List.mem_range.mpr (List.getElem?_eq_some_iff.mp hi).1) hnot

/-- 全員がやめていれば、残りの手番はない。 -/
theorem turnsLeft_of_finished (hf : p.finished = true) : ∀ ws : List Nat,
    p.turnsLeft limits files ws = []
  | [] => rfl
  | w :: ws => by
    have hnone : p.turnsOf limits files w = 0 := by
      unfold turnsOf
      cases hw : p.workers[w]? with
      | none => rfl
      | some x =>
        have hx : x.isRetired = true := List.all_eq_true.mp hf x (List.mem_of_getElem? hw)
        cases x with
        | retired => rfl
        | free => cases hx
        | busy index job => cases hx
    unfold turnsLeft
    rw [hnone]
    exact turnsLeft_of_finished hf ws

end Pool

namespace Chunking

variable {loader : Loader} {r : Registry}

/-- 列の残りの手番。 -/
def remaining (limits : ChunkLimits) (maxWorkers : Nat) (schedule : List Nat) (r : Registry)
    (files : List SourceFile) : List Nat :=
  let p := (team maxWorkers r files).run limits files schedule
  p.turnsLeft limits files (List.range p.workers.length)

/-- **補って切った結果は、全員がやめるまで続けた列で切った結果である。** -/
theorem chunkThrough_eq (limits : ChunkLimits) (maxWorkers : Nat) (schedule : List Nat)
    (r : Registry) (files : List SourceFile) :
    chunkThrough limits maxWorkers schedule r files
      = chunkFiles limits maxWorkers (schedule ++ remaining limits maxWorkers schedule r files) r
        files
    ∧ ((team maxWorkers r files).run limits files
        (schedule ++ remaining limits maxWorkers schedule r files)).finished = true := by
  refine ⟨rfl, ?_⟩
  rw [Pool.run_append]
  exact Pool.finished_turnsLeft limits files _

/-- **列だけで全員がやめていれば、列で切った結果そのものである。** -/
theorem chunkThrough_of_finished {limits : ChunkLimits} {maxWorkers : Nat} {schedule : List Nat}
    {files : List SourceFile}
    (hf : ((team maxWorkers r files).run limits files schedule).finished = true) :
    chunkThrough limits maxWorkers schedule r files
      = chunkFiles limits maxWorkers schedule r files := by
  unfold chunkThrough
  simp only []
  rw [Pool.turnsLeft_of_finished hf, List.append_nil]

/-- ファイルがなければ、切る作業者は一人で、何もしない。 -/
theorem chunkThrough_nil (limits : ChunkLimits) (maxWorkers : Nat) (schedule : List Nat)
    (r : Registry) : chunkThrough limits maxWorkers schedule r [] = ([], r) := by
  have hone : workerCount maxWorkers 0 = 1 := by
    unfold workerCount
    omega
  unfold chunkThrough chunkFiles
  simp only []
  exact if_pos hone

/-- **補って切った結果は、どの列でも、一つずつ `Settled` のとおりである。** 保管も食い違わない。 -/
theorem chunkThrough_settled (h : r.Agrees loader) (limits : ChunkLimits) (maxWorkers : Nat)
    (schedule : List Nat) (files : List SourceFile) :
    List.Forall₂ (Settled limits loader) files
      (chunkThrough limits maxWorkers schedule r files).1
    ∧ (chunkThrough limits maxWorkers schedule r files).2.Agrees loader := by
  obtain ⟨heq, hfinished⟩ := chunkThrough_eq limits maxWorkers schedule r files
  rw [heq]
  exact ⟨chunkFiles_settled h maxWorkers _ (Or.inr hfinished), agrees_chunkFiles h ..⟩

/-- 補って切った断片は、一つずつ切った断片の列である。保管も食い違わない。 -/
theorem chunkThrough_chunks (h : r.Agrees loader) (limits : ChunkLimits) (maxWorkers : Nat)
    (schedule : List Nat) (files : List SourceFile) :
    (chunkThrough limits maxWorkers schedule r files).1.map (·.chunks)
      = files.map (alone limits loader)
    ∧ (chunkThrough limits maxWorkers schedule r files).2.Agrees loader :=
  (chunkThrough_settled h limits maxWorkers schedule files).imp map_chunks_of_settled id

end Chunking

end CodeSearch
