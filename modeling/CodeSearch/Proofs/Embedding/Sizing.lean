import CodeSearch.Proofs.Embedding.Retrying
import CodeSearch.Total

/-!
# 束の大きさの移り変わり

埋め込みは、そのときの束の大きさだけ断片を取って送り、束を断られたら大きさを半分にする。
大きさは 1 より小さくならないので、束ごとに断片が減り、束の数は断片の数を超えない。

一つの束を `BatchLog` に書き留め、大きさの移り変わりを、束の列についての関係 `Sized` で述べる。
書き留めた束の呼び出しをつなぐと、埋め込みの間にした呼び出しの全部になるので、
束の列は呼び出しから読み取れるものである。

* `calls_send`、`calls_embedItems` — 束を送る呼び出しと、断片を一つずつ送る呼び出し
* `logged_embed` — 一つの束を埋め込むと、一つの `BatchLog` になる
* `Stage.Passes.sized` — いくつの束を埋め込んでも、大きさは `Sized` のとおりに移る
* `generate_completes` — やめる合図も致命的な失敗もなければ、最後までやり終える
* `batch_sizes_lawful` — 束の大きさをどう使ってきた後の埋め込みでも、そうである
-/

namespace CodeSearch

variable {σ : Type}

/-! ## 束の記録 -/

/-- 埋め込んだ一つの束。 -/
structure BatchLog where
  /-- そのときの束の大きさ。 -/
  size : Nat
  batch : List Chunk
  /-- 束を送って、最後に返った答え。 -/
  answer : Except Error (List Vec)
  calls : List Call

/-- 一つの文書を送る呼び出しの文書。 -/
def Call.item? : Call → Option String
  | .embed _ text false _ => some text
  | _ => none

namespace BatchLog

/-- 束の答えが致命的な失敗か。 -/
def isFatal (log : BatchLog) : Bool :=
  match log.answer with
  | .ok _ => false
  | .error e => e.isFatal

/-- 次の束の大きさ。断られたら半分にする。 -/
def next (log : BatchLog) : Nat :=
  match log.answer with
  | .ok _ => log.size
  | .error _ => max 1 (log.size / 2)

/-- 大きさが `size` のときに、残りの断片 `left` から取った束であること。 -/
structure Taken (size : Nat) (left : List Chunk) (log : BatchLog) : Prop where
  left_ne_nil : left ≠ []
  size_eq : log.size = size
  batch_eq : log.batch = left.take (min size left.length)

/-- 呼び出しが、束を送り、断られ続け、`answer` を得たものであること。
束が断られたときに限り、その後で断片を前から一つずつ送ってよい。 -/
structure Called (segment : Bool) (log : BatchLog) : Prop where
  calls_eq : ∃ refused time items,
    log.calls = refused
      ++ .embedBatch time (log.batch.map (·.documentText segment)) log.answer :: items
    ∧ (∀ c ∈ refused, ∃ t e,
        c = .embedBatch t (log.batch.map (·.documentText segment)) (.error e) ∧ e.isFatal = false)
    ∧ (∃ k, items.map Call.item? = ((log.batch.map (·.documentText segment)).take k).map some)
    ∧ (items ≠ [] → ∃ e, log.answer = .error e ∧ e.isFatal = false)

end BatchLog

/-- 大きさ `size`、残り `left` から束の列を埋め込むと、大きさが `last`、残りが `rest` になること。
束の答えが致命的な失敗なら、大きさはそのままで、束はそれで終わる。 -/
inductive Sized : (size : Nat) → (left : List Chunk) → List BatchLog → (last : Nat) →
    (rest : List Chunk) → Prop where
  | done {size : Nat} {left : List Chunk} : Sized size left [] size left
  | batch {size last : Nat} {left rest : List Chunk} {log : BatchLog} {logs : List BatchLog} :
      log.Taken size left → log.isFatal = false →
      Sized log.next (left.drop log.batch.length) logs last rest →
      Sized size left (log :: logs) last rest
  | fatal {size : Nat} {left : List Chunk} {log : BatchLog} :
      log.Taken size left → log.isFatal = true →
      Sized size left [log] size (left.drop log.batch.length)

namespace Sized

variable {size last : Nat} {left rest : List Chunk} {log : BatchLog} {logs : List BatchLog}

/-- 残りは、束と、まだ残っている断片をつないだものである。 -/
theorem left_eq (h : Sized size left logs last rest) : left = logs.flatMap (·.batch) ++ rest := by
  have hone : ∀ {size : Nat} {left : List Chunk} {log : BatchLog}, log.Taken size left →
      log.batch ++ left.drop log.batch.length = left := by
    intro size left log htaken
    rw [htaken.batch_eq, List.length_take, Nat.min_assoc, Nat.min_self]
    exact List.take_append_drop _ left
  induction h with
  | done => rfl
  | batch htaken _ _ ih => rw [List.flatMap_cons, List.append_assoc, ← ih, hone htaken]
  | fatal htaken _ =>
    rw [List.flatMap_cons, List.flatMap_nil, List.append_nil, hone htaken]

/-- **束の大きさは範囲の中に留まり、どの束にも断片がある。** -/
theorem bounds (h : Sized size left logs last rest) (hone : 1 ≤ size) (hmax : size ≤ maxBatchSize) :
    (∀ log ∈ logs, 1 ≤ log.size ∧ log.size ≤ maxBatchSize ∧ 1 ≤ log.batch.length)
      ∧ 1 ≤ last ∧ last ≤ maxBatchSize := by
  have htake : ∀ {size : Nat} {left : List Chunk} {log : BatchLog}, log.Taken size left →
      1 ≤ size → 1 ≤ log.batch.length := by
    intro size left log htaken hsize
    have hlen := List.length_pos_iff.mpr htaken.left_ne_nil
    rw [htaken.batch_eq, List.length_take]
    omega
  induction h with
  | done => exact ⟨nofun, hone, hmax⟩
  | @batch size last left rest log logs htaken _ _ ih =>
    have hsize := htaken.size_eq
    have hnext : 1 ≤ log.next ∧ log.next ≤ maxBatchSize := by
      unfold BatchLog.next
      split
      · exact ⟨by omega, by omega⟩
      · exact ⟨by omega, by unfold maxBatchSize at *; omega⟩
    obtain ⟨hall, hlast⟩ := ih hnext.1 hnext.2
    refine ⟨List.forall_mem_cons.mpr ⟨⟨by omega, by omega, htake htaken hone⟩, hall⟩, hlast⟩
  | @fatal size left log htaken _ =>
    have hsize := htaken.size_eq
    refine ⟨List.forall_mem_singleton.mpr ⟨by omega, by omega, htake htaken hone⟩, hone, hmax⟩

/-- 束の断片の数の和と、残った断片の数は、合わせて始めの断片の数である。 -/
theorem sumOf_eq (h : Sized size left logs last rest) :
    sumOf (logs.map (·.batch.length)) + rest.length = left.length := by
  have hflat : ∀ logs : List BatchLog,
      (logs.flatMap (·.batch)).length = sumOf (logs.map (·.batch.length)) := by
    intro logs
    induction logs with
    | nil => rfl
    | cons log logs ih => simp [ih]
  rw [h.left_eq, List.length_append, hflat, Nat.add_comm]

end Sized

/-- 束のどれにも断片があれば、束の数は断片の数の和を超えない。 -/
theorem length_le_sumOf {logs : List BatchLog} (h : ∀ log ∈ logs, 1 ≤ log.batch.length) :
    logs.length ≤ sumOf (logs.map (·.batch.length)) := by
  induction logs with
  | nil => exact Nat.le_refl 0
  | cons log logs ih =>
    obtain ⟨hone, hrest⟩ := List.forall_mem_cons.mp h
    have := ih hrest
    simp only [List.length_cons, List.map_cons, sumOf_cons]
    omega

namespace Embedding

variable {p : Provider σ} {o : EmbeddingSettings} {stop : Nat → Bool}

/-! ## 一つの束の呼び出し -/

/-- 束を送る呼び出しは、断られた呼び出しと、それに続く最後の呼び出しである。 -/
theorem calls_send {attempts : Nat} {texts : List String} {s t : Session (Recorded σ)}
    {answer : Except Error (List Vec)} (h : send p.recorded attempts texts s = (answer, t)) :
    ∃ refused time, t.calls = s.calls ++ (refused ++ [.embedBatch time texts answer])
      ∧ ∀ c ∈ refused, ∃ t e, c = .embedBatch t texts (.error e) ∧ e.isFatal = false := by
  obtain ⟨j, -, heq, hcalls, hrefused, -⟩ := send_recorded_eq p attempts texts s
  have hanswer : answer = reply p texts s.forget j := by
    rw [← reply_recorded]
    exact congrArg Prod.fst (h.symm.trans heq)
  rw [h, List.range_succ, List.map_append, List.map_singleton] at hcalls
  refine ⟨(List.range j).map (nthCall p texts s.forget), (retried p texts s.forget j).now, ?_, ?_⟩
  · rw [hcalls, hanswer]
    rfl
  · intro c hc
    obtain ⟨i, hi, rfl⟩ := List.mem_map.mp hc
    have hi := hrefused i (List.mem_range.mp hi)
    unfold nthCall
    cases hreply : reply p texts s.forget i with
    | ok vs =>
      rw [hreply] at hi
      cases hi
    | error e =>
      rw [hreply] at hi
      exact ⟨_, e, rfl, hi⟩

/-- 断片を一つずつ送る呼び出しは、前からいくつかの断片の文書を順に送るものである。 -/
theorem calls_embedItems {result : Except Error Generation} {t : Session (Recorded σ)} :
    ∀ {cs : List Chunk} {first : Bool} {g : Generation} {s : Session (Recorded σ)},
    embedItems p.recorded o first g cs s = (result, t) →
    ∃ items k, t.calls = s.calls ++ items
      ∧ items.map Call.item? = ((cs.map (·.documentText o.segmentIdentifiers)).take k).map some
  | [], _, _, s, h => by
    cases h
    exact ⟨[], 0, (List.append_nil _).symm, rfl⟩
  | c :: cs, first, g, s, h => by
    cases hask : p.recorded.embed (c.documentText o.segmentIdentifiers) false
        (if first then s else s.pause o.itemDelay) with
    | mk answer u =>
      obtain ⟨time, hone⟩ : ∃ time, u.calls
          = s.calls ++ [.embed time (c.documentText o.segmentIdentifiers) false answer] := by
        have hone := (Provider.embed_recorded hask).2
        rw [Session.calls_ite_pause] at hone
        exact ⟨_, hone⟩
      -- 最後の一つか、残りも送るか
      have hmore : ∀ {g' : Generation}, embedItems p.recorded o false g' cs u = (result, t) →
          ∃ items k, t.calls = s.calls ++ items
            ∧ items.map Call.item?
              = (((c :: cs).map (·.documentText o.segmentIdentifiers)).take k).map some := by
        intro g' hrest
        obtain ⟨items, k, hcalls, hitems⟩ := calls_embedItems hrest
        refine ⟨.embed time (c.documentText o.segmentIdentifiers) false answer :: items, k + 1, ?_,
          congrArg (some (c.documentText o.segmentIdentifiers) :: ·) hitems⟩
        rw [hcalls, hone, List.append_assoc]
        rfl
      unfold embedItems at h
      rw [hask] at h
      cases answer with
      | ok v => exact hmore h
      | error e =>
        simp only [] at h
        split at h
        · cases h
          exact ⟨_, 1, hone, rfl⟩
        · exact hmore h

/-- **一つの束を埋め込むと、一つの記録になる。** 次の大きさは、記録から決まる。 -/
theorem logged_embedChunks {size size' : BatchSize} {g : Generation} {batch : List Chunk}
    {s t : Session (Recorded σ)} {result : Except Error Generation}
    (h : embedChunks p.recorded o size g batch s = (result, size', t)) :
    ∃ log : BatchLog, log.size = size.value ∧ log.batch = batch
      ∧ t.calls = s.calls ++ log.calls ∧ log.Called o.segmentIdentifiers
      ∧ (log.isFatal = false → size'.value = log.next)
      ∧ (log.isFatal = true → size' = size ∧ ∃ e, result = .error e) := by
  cases hsend : send p.recorded o.maxRetries (batch.map (·.documentText o.segmentIdentifiers)) s with
  | mk answer u =>
    obtain ⟨refused, time, hcalls, hrefused⟩ := calls_send hsend
    unfold embedChunks at h
    rw [hsend] at h
    cases answer with
    | ok vs =>
      cases h
      refine ⟨⟨size.value, batch, .ok vs, _⟩, rfl, rfl, hcalls, ⟨refused, time, [], rfl, hrefused,
        ⟨0, rfl⟩, fun hne => absurd rfl hne⟩, fun _ => rfl, nofun⟩
    | error e =>
      simp only [] at h
      by_cases hfatal : e.isFatal = true
      · rw [if_pos hfatal] at h
        cases h
        refine ⟨⟨size.value, batch, .error e, _⟩, rfl, rfl, hcalls, ⟨refused, time, [], rfl, hrefused,
          ⟨0, rfl⟩, fun hne => absurd rfl hne⟩, fun hgo => ?_, fun _ => ⟨rfl, e, rfl⟩⟩
        have hgo : e.isFatal = false := hgo
        rw [hfatal] at hgo
        cases hgo
      · rw [if_neg hfatal] at h
        rw [Bool.not_eq_true] at hfatal
        -- 束が断られたので、大きさを半分にし、断片を一つずつ送る
        cases hitems : embedItems p.recorded o true g batch u with
        | mk result' v =>
          rw [hitems] at h
          cases h
          obtain ⟨items, k, hmore, htexts⟩ := calls_embedItems hitems
          refine ⟨⟨size.value, batch, .error e,
              refused ++ .embedBatch time (batch.map (·.documentText o.segmentIdentifiers)) (.error e)
                :: items⟩,
            rfl, rfl, ?_, ⟨refused, time, items, rfl, hrefused, ⟨k, htexts⟩,
              fun _ => ⟨e, rfl, hfatal⟩⟩, fun _ => ?_, fun hstop => ?_⟩
          · rw [hmore, hcalls]
            simp
          · exact Nat.max_comm _ _
          · have hstop : e.isFatal = true := hstop
            rw [hfatal] at hstop
            cases hstop

/-! ## 束の列 -/

namespace Stage

/-- 次の束を埋め込んだ記録は、残りから取った束である。 -/
theorem logged_embed {t : Stage (Recorded σ)} {result : Except Error Generation}
    {size : BatchSize} {s : Session (Recorded σ)} (hne : t.remaining ≠ [])
    (h : t.embed p.recorded o = (result, size, s)) :
    ∃ log : BatchLog, log.Taken t.size.value t.remaining
      ∧ t.remaining.drop log.batch.length = t.remaining.drop t.count
      ∧ s.calls = t.session.calls ++ log.calls ∧ log.Called o.segmentIdentifiers
      ∧ (log.isFatal = false → size.value = log.next)
      ∧ (log.isFatal = true → size = t.size ∧ ∃ e, result = .error e) := by
  obtain ⟨log, hsize, hbatch, hcalls, hcalled, hnext, hfatal⟩ := logged_embedChunks h
  rw [Session.calls_ite_pause] at hcalls
  refine ⟨log, ⟨hne, hsize, hbatch⟩, ?_, hcalls, hcalled, hnext, hfatal⟩
  have hcount : t.count ≤ t.remaining.length := Nat.min_le_right _ _
  rw [hbatch, batch, List.length_take, Nat.min_eq_left hcount]

/-- **いくつの束を埋め込んでも、大きさは `Sized` のとおりに移る。** 後に続く束の列もつながる。 -/
theorem Passes.sized {t u : Stage (Recorded σ)} {batches : List (List Chunk)}
    (h : Passes p.recorded o stop t batches u) :
    ∃ logs : List BatchLog, u.session.calls = t.session.calls ++ logs.flatMap (·.calls)
      ∧ (∀ log ∈ logs, log.Called o.segmentIdentifiers)
      ∧ ∀ {more : List BatchLog} {last : Nat} {rest : List Chunk},
        Sized u.size.value u.remaining more last rest →
        Sized t.size.value t.remaining (logs ++ more) last rest := by
  induction h with
  | refl t => exact ⟨[], (List.append_nil _).symm, nofun, fun hmore => hmore⟩
  | @step t u v batches hstep _ ih =>
    cases hstep with
    | @embed g size s hne hgo hbatch =>
      obtain ⟨logs, hcalls, hcalled, hsized⟩ := ih
      obtain ⟨log, htaken, hdrop, hone, hcalledOne, hnext, hfatal⟩ := logged_embed hne hbatch
      have hgoes : log.isFatal = false := by
        cases hlog : log.isFatal with
        | false => rfl
        | true =>
          obtain ⟨-, e, he⟩ := hfatal hlog
          cases he
      refine ⟨log :: logs, ?_, List.forall_mem_cons.mpr ⟨hcalledOne, hcalled⟩, fun hmore => ?_⟩
      · rw [hcalls, List.flatMap_cons, ← List.append_assoc, ← hone]
        rfl
      · refine .batch htaken hgoes ?_
        rw [hdrop, ← hnext hgoes]
        exact hsized hmore

end Stage

/-- 記録しながらの埋め込みの呼び出しは、束ごとの記録をつないだものである。 -/
theorem sized_generate (p : Provider σ) (o : EmbeddingSettings) (stop : Nat → Bool)
    (size : BatchSize) (chunks : List Chunk) (s : Session (Recorded σ)) :
    ∃ logs rest, Sized size.value chunks logs
        (generate p.recorded o stop size chunks s).size.value rest
      ∧ (generate p.recorded o stop size chunks s).session.calls
        = s.calls ++ logs.flatMap (·.calls)
      ∧ (∀ log ∈ logs, log.Called o.segmentIdentifiers)
      ∧ ∀ g, (generate p.recorded o stop size chunks s).result = .ok g → g.cancelled = false →
        rest = [] := by
  obtain ⟨batches, u, hpass, hend⟩ := generate_cases p.recorded o stop size chunks s
  obtain ⟨logs, hcalls, hcalled, hsized⟩ := hpass.sized
  cases hend with
  | finished hnil _ hsize hs =>
    rw [hsize, hs]
    refine ⟨logs ++ [], u.remaining, hsized .done, ?_, ?_, fun _ _ _ => hnil⟩
    · rw [List.append_nil]
      exact hcalls
    · rwa [List.append_nil]
  | stopped _ _ hres hsize hs =>
    rw [hsize, hs, hres]
    refine ⟨logs ++ [], u.remaining, hsized .done, ?_, ?_, ?_⟩
    · rw [List.append_nil]
      exact hcalls
    · rwa [List.append_nil]
    · rintro _ ⟨⟩ hgo
      cases hgo
  | failed e hne _ hbatch hres hsize hs =>
    cases hembed : u.embed p.recorded o with
    | mk result rest =>
      rw [hembed] at hsize hs
      rw [hsize, hs, hres]
      obtain ⟨log, htaken, hdrop, hone, hcalledOne, hnext, hfatal⟩ := Stage.logged_embed hne hembed
      -- 最後の束は、送ったところで止まったか、一つずつ送るうちに止まった
      have hlast : Sized u.size.value u.remaining [log] rest.1.value
          (u.remaining.drop log.batch.length) := by
        cases hlog : log.isFatal with
        | false =>
          rw [hnext hlog]
          exact .batch htaken hlog .done
        | true =>
          rw [(hfatal hlog).1]
          exact .fatal htaken hlog
      refine ⟨logs ++ [log], _, hsized hlast, ?_, ?_, nofun⟩
      · rw [hone, hcalls, List.flatMap_append, List.flatMap_singleton, List.append_assoc]
        rfl
      · intro l hl
        rcases List.mem_append.mp hl with hl | hl
        · exact hcalled l hl
        · rw [List.mem_singleton.mp hl]
          exact hcalledOne

/-- **やめる合図も致命的な失敗もなければ、埋め込みはやり終える。** -/
theorem generate_completes (p : Provider σ) (o : EmbeddingSettings) {stop : Nat → Bool}
    (size : BatchSize) (chunks : List Chunk) (s : Session (Recorded σ))
    (hstop : ∀ n, stop n = false)
    (hcalls : ∀ c ∈ (generate p.recorded o stop size chunks s).session.calls, c.fatal? = none) :
    ∃ g, (generate p.recorded o stop size chunks s).result = .ok g ∧ g.cancelled = false := by
  cases hresult : (generate p.recorded o stop size chunks s).result with
  | error e =>
    have hfailures := failures_generate p o stop size chunks s
    rw [hresult] at hfailures
    have hmem : e ∈ (generate p.recorded o stop size chunks s).session.failures := by
      rw [hfailures]
      exact List.mem_append_right _ List.mem_cons_self
    obtain ⟨c, hc, hfatal⟩ := Session.mem_failures.mp hmem
    rw [hcalls c hc] at hfatal
    cases hfatal
  | ok g =>
    obtain ⟨batches, u, hpass, hend⟩ := generate_cases p.recorded o stop size chunks s
    obtain ⟨-, hcancel⟩ := hpass.accounts p.recorded.answers_anything
      (Generation.accounts_start _ _ _ p.recorded.dimensions)
    refine ⟨g, rfl, ?_⟩
    cases hend with
    | finished _ hres =>
      rw [hresult] at hres
      cases hres
      exact hcancel
    | stopped _ hyes =>
      rw [hstop] at hyes
      cases hyes
    | failed e _ _ _ hres =>
      rw [hresult] at hres
      cases hres

/-! ## 大きさの使い方 -/

/-- 束の大きさの使い方。増やすのも減らすのも、埋め込みの前でも間でもよい。 -/
inductive SizerUse (σ : Type) where
  | grow
  | shrink
  | generate (p : Provider σ) (o : EmbeddingSettings) (stop : Nat → Bool) (chunks : List Chunk)
      (s : Session σ)

/-- 使った後の大きさ。 -/
def SizerUse.apply (size : BatchSize) : SizerUse σ → BatchSize
  | .grow => size.grow
  | .shrink => size.shrink
  | .generate p o stop chunks s => (Embedding.generate p o stop size chunks s).size

/-- 始めの大きさ `initial` を範囲に収め、順に使った後の大きさ。 -/
def sizeAfter (initial : Nat) (uses : List (SizerUse σ)) : BatchSize :=
  uses.foldl SizerUse.apply (.ofNat initial)

/--
**束の大きさは範囲の中に留まり、埋め込みは束の列となって終わる。**

始めの大きさと、それまでの使い方が何であっても、その後の埋め込みについて言える。

* 束は、そのときの大きさと残りの数の小さいほうだけ断片を取る。次の大きさは、束を送って断られたときだけ
  半分になり、最後の大きさが後に残る。束の答えが致命的な失敗なら、大きさは変わらない（`Sized`）。
* した呼び出しは、束ごとの呼び出しをつないだものである（`BatchLog.Called`）。
* どの束にも断片があるので、束の数は断片の数を超えない。
* 途中でやめずに成果が返れば、束の断片の数の和は、断片の数である。やめる合図も致命的な失敗もなければ、
  そうなる。
-/
theorem batch_sizes_lawful (initial : Nat) (uses : List (SizerUse σ)) (p : Provider σ)
    (o : EmbeddingSettings) (stop : Nat → Bool) (chunks : List Chunk) (s : Session σ) :
    1 ≤ (sizeAfter initial uses).value ∧ (sizeAfter initial uses).value ≤ maxBatchSize
    ∧ (generate p.recorded o stop (sizeAfter initial uses) chunks s.recording).forget
      = generate p o stop (sizeAfter initial uses) chunks s
    ∧ ∃ logs rest, Sized (sizeAfter initial uses).value chunks logs
        (generate p o stop (sizeAfter initial uses) chunks s).size.value rest
      ∧ (generate p.recorded o stop (sizeAfter initial uses) chunks s.recording).session.calls
        = logs.flatMap (·.calls)
      ∧ (∀ log ∈ logs, log.Called o.segmentIdentifiers
        ∧ 1 ≤ log.size ∧ log.size ≤ maxBatchSize ∧ 1 ≤ log.batch.length)
      ∧ logs.length ≤ chunks.length
      ∧ (∀ g, (generate p o stop (sizeAfter initial uses) chunks s).result = .ok g →
        g.cancelled = false → sumOf (logs.map (·.batch.length)) = chunks.length)
      ∧ ((∀ n, stop n = false) → (∀ log ∈ logs, ∀ c ∈ log.calls, c.fatal? = none) →
        ∃ g, (generate p o stop (sizeAfter initial uses) chunks s).result = .ok g
          ∧ g.cancelled = false) := by
  generalize sizeAfter initial uses = size
  have hforget := forget_generate p o stop size chunks s.recording
  obtain ⟨logs, rest, hsized, hcalls, hcalled, hrest⟩ :=
    sized_generate p o stop size chunks s.recording
  have hsize : (generate p.recorded o stop size chunks s.recording).size
      = (generate p o stop size chunks s).size := congrArg Run.size hforget
  have hresult : (generate p.recorded o stop size chunks s.recording).result
      = (generate p o stop size chunks s).result := congrArg Run.result hforget
  rw [hsize] at hsized
  rw [hresult] at hrest
  have hbounds := (hsized.bounds size.one_le size.le_max).1
  have hsum := hsized.sumOf_eq
  have hcount : logs.length ≤ sumOf (logs.map (·.batch.length)) :=
    length_le_sumOf fun log hlog => (hbounds log hlog).2.2
  refine ⟨size.one_le, size.le_max, hforget, logs, rest, hsized, hcalls,
    fun log hlog => ⟨hcalled log hlog, hbounds log hlog⟩, by omega, ?_, fun hstop hfatal => ?_⟩
  · intro g hg hgo
    rw [hrest g hg hgo] at hsum
    exact hsum
  · rw [← hresult]
    refine generate_completes p o size chunks s.recording hstop fun c hc => ?_
    rw [hcalls] at hc
    obtain ⟨log, hlog, hc⟩ := List.mem_flatMap.mp hc
    exact hfatal log hlog c hc

/-- 九つずつのはずを半分の四つずつにして六つの断片を埋め込む。初めの束が断られて二つずつになり、
残りの二つは一度で済む。 -/
theorem batch_sizes_lawful_refused :
    (sizeAfter 9 [(.shrink : SizerUse Nat)]).value = 4
    ∧ (generate (reluctant statement) { maxRetries := 1 } (fun _ => false)
        (sizeAfter 9 [(.shrink : SizerUse Nat)]) remarks { peer := 1 }).size.value = 2
    ∧ ∃ g, (generate (reluctant statement) { maxRetries := 1 } (fun _ => false)
        (sizeAfter 9 [(.shrink : SizerUse Nat)]) remarks { peer := 1 }).result = .ok g
      ∧ g.cancelled = false
      ∧ ∃ logs rest, Sized 4 remarks logs 2 rest ∧ logs.length ≤ 6
        ∧ sumOf (logs.map (·.batch.length)) = 6 := by
  have hsize : (generate (reluctant statement) { maxRetries := 1 } (fun _ => false)
      (sizeAfter 9 [(.shrink : SizerUse Nat)]) remarks { peer := 1 }).size.value = 2 := by
    decide +kernel
  have hres : (generate (reluctant statement) { maxRetries := 1 } (fun _ => false)
      (sizeAfter 9 [(.shrink : SizerUse Nat)]) remarks { peer := 1 }).result.toOption.map
      (·.cancelled) = some false := by
    decide +kernel
  cases hrun : (generate (reluctant statement) { maxRetries := 1 } (fun _ => false)
      (sizeAfter 9 [(.shrink : SizerUse Nat)]) remarks { peer := 1 }).result with
  | error e =>
    rw [hrun] at hres
    cases hres
  | ok g =>
    rw [hrun] at hres
    have hgo : g.cancelled = false := Option.some.inj hres
    obtain ⟨-, -, -, logs, rest, hsized, -, -, hcount, hsum, -⟩ := batch_sizes_lawful 9
      [(.shrink : SizerUse Nat)] (reluctant statement) { maxRetries := 1 } (fun _ => false)
      remarks { peer := 1 }
    rw [hsize] at hsized
    exact ⟨rfl, hsize, g, rfl, hgo, logs, rest, hsized, hcount, hsum g hrun hgo⟩

end Embedding

end CodeSearch
