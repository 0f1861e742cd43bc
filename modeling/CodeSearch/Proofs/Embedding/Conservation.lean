import CodeSearch.Proofs.Embedding.Accounting
import CodeSearch.Proofs.Embedding.Recording

/-!
# 埋め込みは断片を失わない

成果が返れば、処理した断片の一つ一つが、埋め込めた列か埋め込めなかった列のどちらか一方に、
元の順のまま残る。処理したのは前からいくつかの束であり、途中でやめなければ断片の全部である。
成果が返らないのは、した呼び出しのどれかが致命的な失敗を答えたときに限る。

* `Session.failures` — した呼び出しが答えた致命的な失敗の列
* `failures_generate` — その列は、埋め込みを終わらせた失敗ちょうど一つか、空である
* `generate_conserves` — 断片は失われず、増えもしない
-/

namespace CodeSearch

variable {σ : Type}

/-! ## 致命的な失敗 -/

/-- 失敗の原因。成果が返れば空である。 -/
def cause {α : Type} : Except Error α → List Error
  | .ok _ => []
  | .error e => [e]

@[simp] theorem mem_cause {α : Type} {r : Except Error α} {e : Error} :
    e ∈ cause r ↔ r = .error e := by
  cases r with
  | ok _ => simp [cause]
  | error e' => simp [cause, eq_comm]

namespace Session

/-- した呼び出しが答えた致命的な失敗。順に並ぶ。 -/
def failures (s : Session (Recorded σ)) : List Error := s.calls.filterMap Call.fatal?

@[simp] theorem failures_recording (s : Session σ) : s.recording.failures = [] := rfl

@[simp] theorem failures_pause (s : Session (Recorded σ)) (millis : Nat) :
    (s.pause millis).failures = s.failures := by
  unfold failures
  rw [calls_pause]

@[simp] theorem failures_ite_pause (c : Prop) [Decidable c] (s : Session (Recorded σ))
    (millis : Nat) : (if c then s else s.pause millis).failures = s.failures := by
  unfold failures
  rw [calls_ite_pause]

theorem mem_failures {s : Session (Recorded σ)} {e : Error} :
    e ∈ s.failures ↔ ∃ c ∈ s.calls, c.fatal? = some e := List.mem_filterMap

end Session

section

variable {p : Provider σ} {s t : Session (Recorded σ)}

/-- 一つの呼び出しは、その答えが致命的な失敗のときだけ列を延ばす。 -/
theorem Provider.failures_embed {text : String} {isQuery : Bool} {answer : Except Error Vec}
    (h : p.recorded.embed text isQuery s = (answer, t)) :
    t.failures = s.failures ++ (cause answer).filter Error.isFatal := by
  unfold Session.failures
  rw [(Provider.embed_recorded h).2, List.filterMap_append]
  congr 1
  cases answer with
  | ok v => rfl
  | error e => cases hf : e.isFatal <;> simp [Call.fatal?, cause, hf]

theorem Provider.failures_embedBatch {texts : List String} {answer : Except Error (List Vec)}
    (h : p.recorded.embedBatch texts s = (answer, t)) :
    t.failures = s.failures ++ (cause answer).filter Error.isFatal := by
  unfold Session.failures
  rw [(Provider.embedBatch_recorded h).2, List.filterMap_append]
  congr 1
  cases answer with
  | ok vs => rfl
  | error e => cases hf : e.isFatal <;> simp [Call.fatal?, cause, hf]

end

namespace Embedding

variable {p : Provider σ} {o : EmbeddingSettings}

/-- 束を何度送り直しても、列が延びるのは最後の答えが致命的な失敗のときだけである。 -/
theorem failures_sendAgain {texts : List String} {answer : Except Error (List Vec)}
    {t : Session (Recorded σ)} : ∀ {retries failures : Nat} {s : Session (Recorded σ)},
    sendAgain p.recorded texts failures retries s = (answer, t) →
    t.failures = s.failures ++ (cause answer).filter Error.isFatal
  | 0, _, _, h => Provider.failures_embedBatch h
  | retries + 1, failures, s, h => by
    unfold sendAgain at h
    split at h
    · next vs s' heq =>
      cases h
      exact Provider.failures_embedBatch heq
    · next e s' heq =>
      have hone := Provider.failures_embedBatch heq
      split at h
      · cases h
        exact hone
      · next hf =>
        -- 送り直すのは致命的でない失敗の後だけなので、列はまだ延びていない
        have hrest := failures_sendAgain h
        rw [Session.failures_pause, hone] at hrest
        simpa [cause, hf] using hrest

/-- 一つずつ送るときは、致命的な失敗で止まる。 -/
theorem failures_embedItems {result : Except Error Generation} {t : Session (Recorded σ)} :
    ∀ {cs : List Chunk} {first : Bool} {g : Generation} {s : Session (Recorded σ)},
    embedItems p.recorded o first g cs s = (result, t) → t.failures = s.failures ++ cause result
  | [], _, _, s, h => by
    cases h
    exact (List.append_nil _).symm
  | c :: cs, first, g, s, h => by
    unfold embedItems at h
    split at h
    · next v s' heq =>
      have hone := Provider.failures_embed heq
      have hrest := failures_embedItems h
      rw [hone, Session.failures_ite_pause] at hrest
      simpa [cause] using hrest
    · next e s' heq =>
      have hone := Provider.failures_embed heq
      rw [Session.failures_ite_pause] at hone
      split at h
      · next hf =>
        cases h
        simpa [cause, hf] using hone
      · next hf =>
        have hrest := failures_embedItems h
        rw [hone] at hrest
        simpa [cause, hf] using hrest

theorem failures_embedChunks {size size' : BatchSize} {g : Generation} {batch : List Chunk}
    {s t : Session (Recorded σ)} {result : Except Error Generation}
    (h : embedChunks p.recorded o size g batch s = (result, size', t)) :
    t.failures = s.failures ++ cause result := by
  unfold embedChunks at h
  split at h
  · next vs s' hsend =>
    cases h
    exact failures_sendAgain hsend
  · next e s' hsend =>
    have hone := failures_sendAgain hsend
    split at h
    · next hf =>
      cases h
      simpa [cause, hf] using hone
    · next hf =>
      -- 一つずつ送るのも、束の失敗が致命的でなかったときだけである
      cases h
      have hrest := failures_embedItems
        (show embedItems p.recorded o true g batch s' = (_, _) from rfl)
      rw [hone] at hrest
      simpa [cause, hf] using hrest

namespace Stage

/-- 次の束を埋め込むと、その束を終わらせた失敗だけが列に加わる。 -/
theorem failures_embed {t : Stage (Recorded σ)} {result : Except Error Generation}
    {size : BatchSize} {s : Session (Recorded σ)} (h : t.embed p.recorded o = (result, size, s)) :
    s.failures = t.session.failures ++ cause result := by
  have hall := failures_embedChunks h
  rwa [Session.failures_ite_pause] at hall

/-- 無事に埋め込んだ束の間に、致命的な失敗はない。 -/
theorem Passes.failures {stop : Nat → Bool} {t u : Stage (Recorded σ)}
    {batches : List (List Chunk)} (h : Passes p.recorded o stop t batches u) :
    u.session.failures = t.session.failures := by
  induction h with
  | refl t => rfl
  | step hstep _ ih =>
    cases hstep with
    | embed _ _ hbatch => simpa [cause] using ih.trans (failures_embed hbatch)

end Stage

/-- **した呼び出しが答えた致命的な失敗は、埋め込みを終わらせた失敗だけである。** -/
theorem failures_generate (p : Provider σ) (o : EmbeddingSettings) (stop : Nat → Bool)
    (size : BatchSize) (chunks : List Chunk) (s : Session (Recorded σ)) :
    (generate p.recorded o stop size chunks s).session.failures
      = s.failures ++ cause (generate p.recorded o stop size chunks s).result := by
  obtain ⟨batches, u, hpass, hend⟩ := generate_cases p.recorded o stop size chunks s
  have hbefore : u.session.failures = s.failures := hpass.failures
  cases hend with
  | finished _ hres _ hs => rw [hs, hres, hbefore, cause, List.append_nil]
  | stopped _ _ hres _ hs => rw [hs, hres, hbefore, cause, List.append_nil]
  | failed e _ _ hbatch hres _ hs =>
    cases hembed : u.embed p.recorded o with
    | mk result rest =>
      rw [hembed] at hbatch hs
      rw [hs, hres, ← hbatch, ← hbefore]
      exact Stage.failures_embed hembed

/--
**埋め込みは断片を失わない。**

* 成果が返れば、埋め込めた断片と埋め込めなかった断片は、ベクトルを除けば、前から `n` 個の断片を
  順を変えずに二つに分けたものである。やめなければ `n` は断片の全部の数であり、やめたときは
  それより少なく、いくつかの束のちょうど終わりである。
* 失敗 `e` が返るのは、した呼び出しのどれかが致命的な失敗 `e` を答えたときに限る。
  呼び出しは、提供元を `Provider.recorded` に替えても同じである。
-/
theorem generate_conserves (p : Provider σ) (o : EmbeddingSettings) (stop : Nat → Bool)
    (size : BatchSize) (chunks : List Chunk) (s : Session σ) :
    (∀ g, (generate p o stop size chunks s).result = .ok g →
      ∃ n ≤ chunks.length,
        Interleaved (g.embedded.map Chunk.bare) (g.failed.map (·.chunk.bare))
          ((chunks.take n).map Chunk.bare)
        ∧ (g.cancelled = false → n = chunks.length)
        ∧ (g.cancelled = true → n < chunks.length)
        ∧ ∃ batches u, Stage.Passes p o stop (.start p size chunks s) batches u
          ∧ chunks.take n = batches.flatten)
    ∧ (generate p.recorded o stop size chunks s.recording).forget = generate p o stop size chunks s
    ∧ ∀ e, (generate p o stop size chunks s).result = .error e ↔
      ∃ c ∈ (generate p.recorded o stop size chunks s.recording).session.calls,
        c.fatal? = some e := by
  have hforget := forget_generate p o stop size chunks s.recording
  refine ⟨?_, hforget, ?_⟩
  · intro g hg
    obtain ⟨batches, u, hpass, hchunks, hacc, hcancel⟩ := generate_batches p.answers_anything hg
    have htake : chunks.take batches.flatten.length = batches.flatten := by
      rw [hchunks, List.take_left]
    have hlen := congrArg List.length hchunks
    rw [List.length_append] at hlen
    refine ⟨batches.flatten.length, by omega, ?_, ?_, ?_, batches, u, hpass, htake⟩
    · rw [htake]
      exact hacc.interleaved
    · intro hgo
      have hnil : u.remaining = [] := by simpa [hgo] using hcancel
      rw [hchunks, hnil, List.append_nil]
    · intro hstop
      have hpos := List.length_pos_iff.mpr (hcancel.mp hstop)
      omega
  · intro e
    have hresult : (generate p.recorded o stop size chunks s.recording).result
        = (generate p o stop size chunks s).result := congrArg Run.result hforget
    rw [← Session.mem_failures, failures_generate, Session.failures_recording, List.nil_append,
      mem_cause, hresult]

/-! ### 断られて一つずつ送り、途中でやめる -/

/-- 文書のベクトルが `f` で決まる提供元。束は始めの何回か断る。相手の状態は、あと断る回数である。 -/
def reluctant (f : String → Except Error Vec) : Provider Nat where
  name := "reluctant"
  model := "test"
  normalizes := false
  connected := fun s => (true, s)
  modelAvailable := fun s => (true, s)
  embed := fun t _ s => (f t, s)
  embedBatch := fun ts s =>
    if s.peer = 0 then (ts.mapM f, s) else (.error (.embedding "busy"), { s with peer := s.peer - 1 })

/-- 問いかけで終わる文書は埋め込めない。 -/
def statement (text : String) : Except Error Vec :=
  if text.toList.getLast? = some '?' then .error (.embedding "not a statement") else .ok [1.0, 0.0]

/-- 六つの断片。三つめだけが問いかけで終わる。 -/
def remarks : List Chunk :=
  ["a", "b", "c?", "d", "e", "f"].zipIdx.map fun (text, i) =>
    .ofSpan "notes.txt" (i + 1) (i + 1) text .block "text" i

/-- 四つの断片が済んだところでやめれば、三つが埋め込めて一つが埋め込めない。 -/
theorem generate_conserves_interrupted :
    ∃ g, (generate (reluctant statement) { maxRetries := 1 } (fun done => 4 ≤ done) (.ofNat 4)
        remarks { peer := 1 }).result = .ok g
      ∧ g.cancelled = true ∧ g.embedded.length = 3 ∧ g.failed.length = 1
      ∧ ∃ n ≤ remarks.length,
        Interleaved (g.embedded.map Chunk.bare) (g.failed.map (·.chunk.bare))
          ((remarks.take n).map Chunk.bare)
        ∧ n < remarks.length
        ∧ ∃ batches u, Stage.Passes (reluctant statement) { maxRetries := 1 }
            (fun done => 4 ≤ done) (.start (reluctant statement) (.ofNat 4) remarks { peer := 1 })
            batches u
          ∧ remarks.take n = batches.flatten := by
  have hres : (generate (reluctant statement) { maxRetries := 1 } (fun done => 4 ≤ done) (.ofNat 4)
      remarks { peer := 1 }).result.toOption.map
      (fun g => (g.cancelled, g.embedded.length, g.failed.length)) = some (true, 3, 1) := by
    decide +kernel
  cases hrun : (generate (reluctant statement) { maxRetries := 1 } (fun done => 4 ≤ done) (.ofNat 4)
      remarks { peer := 1 }).result with
  | error e =>
    rw [hrun] at hres
    cases hres
  | ok g =>
    rw [hrun] at hres
    obtain ⟨hcancel, hcounts⟩ := Prod.mk.inj (Option.some.inj hres)
    obtain ⟨hembedded, hfailed⟩ := Prod.mk.inj hcounts
    obtain ⟨n, hn, hinter, -, hstop, hbatches⟩ := (generate_conserves (reluctant statement)
      { maxRetries := 1 } (fun done => 4 ≤ done) (.ofNat 4) remarks { peer := 1 }).1 g hrun
    exact ⟨g, rfl, hcancel, hembedded, hfailed, n, hn, hinter, hstop hcancel, hbatches⟩

end Embedding

end CodeSearch
