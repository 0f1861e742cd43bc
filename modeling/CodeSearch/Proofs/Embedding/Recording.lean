import CodeSearch.Embedding.Generation

/-!
# 呼び出しの記録

提供元への呼び出しを、時刻と答えとともに順に書き留める提供元 `Provider.recorded` を作る。
書き留めたものを忘れれば元の提供元と同じに振る舞うので、埋め込みの一部始終も同じである
（`forget_generate`）。だから「埋め込みの間にした呼び出し」は、記録する提供元で埋め込んだ後の
記録として述べられる。

* `forget_generate` — 記録しても、埋め込みの一部始終は変わらない
-/

namespace CodeSearch

variable {σ : Type}

/-! ## 呼び出し -/

/-- 提供元への一つの呼び出し。時刻と問いと答えからなる。 -/
inductive Call where
  | connected (time : Nat) (answer : Bool)
  | modelAvailable (time : Nat) (answer : Bool)
  | embed (time : Nat) (text : String) (isQuery : Bool) (answer : Except Error Vec)
  | embedBatch (time : Nat) (texts : List String) (answer : Except Error (List Vec))

/-- 呼び出しが答えた致命的な失敗。 -/
def Call.fatal? : Call → Option Error
  | .embed _ _ _ (.error e) => if e.isFatal then some e else none
  | .embedBatch _ _ (.error e) => if e.isFatal then some e else none
  | _ => none

/-- 呼び出しの記録をもつ相手。 -/
structure Recorded (σ : Type) where
  peer : σ
  /-- したことのある呼び出し。順に並ぶ。 -/
  calls : List Call := []

namespace Session

/-- 何も書き留めていないやりとり。 -/
def recording (s : Session σ) : Session (Recorded σ) := { now := s.now, peer := { peer := s.peer } }

/-- 記録を忘れたやりとり。 -/
def forget (s : Session (Recorded σ)) : Session σ := { now := s.now, peer := s.peer.peer }

/-- 書き留めた呼び出し。 -/
def calls (s : Session (Recorded σ)) : List Call := s.peer.calls

@[simp] theorem forget_pause (s : Session (Recorded σ)) (millis : Nat) :
    (s.pause millis).forget = s.forget.pause millis := by
  unfold pause
  split
  · rfl
  · simp only [forget]

@[simp] theorem calls_pause (s : Session (Recorded σ)) (millis : Nat) :
    (s.pause millis).calls = s.calls := by
  unfold pause
  split
  · rfl
  · simp only [calls]

/-- 休んでも休まなくても、呼び出しは変わらない。 -/
@[simp] theorem calls_ite_pause (c : Prop) [Decidable c] (s : Session (Recorded σ))
    (millis : Nat) : (if c then s else s.pause millis).calls = s.calls := by
  split
  · rfl
  · exact calls_pause s millis

/-- 問いを送り、答えを書き留める。 -/
def note {α : Type} (ask : Session σ → α × Session σ) (call : Nat → α → Call)
    (s : Session (Recorded σ)) : α × Session (Recorded σ) :=
  let r := ask s.forget
  (r.1, { now := r.2.now, peer := { peer := r.2.peer, calls := s.calls ++ [call s.now r.1] } })

/-- 記録を忘れれば問いを送っただけであり、記録には一つの呼び出しが加わる。 -/
theorem note_eq {α : Type} (ask : Session σ → α × Session σ) (call : Nat → α → Call)
    {s t : Session (Recorded σ)} {answer : α} (h : note ask call s = (answer, t)) :
    ask s.forget = (answer, t.forget) ∧ t.calls = s.calls ++ [call s.now answer] := by
  cases h
  exact ⟨rfl, rfl⟩

end Session

/-- 呼び出しを書き留める提供元。 -/
def Provider.recorded (p : Provider σ) : Provider (Recorded σ) where
  name := p.name
  model := p.model
  dimensions := p.dimensions
  normalizes := p.normalizes
  prefixes := p.prefixes
  connected := Session.note p.connected .connected
  modelAvailable := Session.note p.modelAvailable .modelAvailable
  embed := fun text isQuery => Session.note (p.embed text isQuery) (.embed · text isQuery)
  embedBatch := fun texts => Session.note (p.embedBatch texts) (.embedBatch · texts)

section

variable {p : Provider σ} {s t : Session (Recorded σ)}

theorem Provider.embed_recorded {text : String} {isQuery : Bool} {answer : Except Error Vec}
    (h : p.recorded.embed text isQuery s = (answer, t)) :
    p.embed text isQuery s.forget = (answer, t.forget)
      ∧ t.calls = s.calls ++ [.embed s.now text isQuery answer] :=
  Session.note_eq (p.embed text isQuery) (.embed · text isQuery) h

theorem Provider.embedBatch_recorded {texts : List String} {answer : Except Error (List Vec)}
    (h : p.recorded.embedBatch texts s = (answer, t)) :
    p.embedBatch texts s.forget = (answer, t.forget)
      ∧ t.calls = s.calls ++ [.embedBatch s.now texts answer] :=
  Session.note_eq (p.embedBatch texts) (.embedBatch · texts) h

end

namespace Embedding

/-- 記録を忘れた一部始終。 -/
def Run.forget (r : Run (Recorded σ)) : Run σ :=
  { result := r.result, reports := r.reports, size := r.size, session := r.session.forget }

/-! ## 記録しても経過は変わらない -/

variable {p : Provider σ} {o : EmbeddingSettings}

theorem forget_sendAgain (texts : List String) : ∀ (retries failures : Nat)
    (s : Session (Recorded σ)),
    (sendAgain p.recorded texts failures retries s).map id Session.forget
      = sendAgain p texts failures retries s.forget
  | 0, _, _ => rfl
  | retries + 1, failures, s => by
    unfold sendAgain
    cases hask : p.recorded.embedBatch texts s with
    | mk answer t =>
      rw [(Provider.embedBatch_recorded hask).1]
      cases answer with
      | ok vs => rfl
      | error e =>
        simp only []
        split
        · rfl
        · rw [forget_sendAgain texts retries (failures + 1), Session.forget_pause]

theorem forget_embedItems : ∀ (cs : List Chunk) (first : Bool) (g : Generation)
    (s : Session (Recorded σ)),
    (embedItems p.recorded o first g cs s).map id Session.forget
      = embedItems p o first g cs s.forget
  | [], _, _, _ => rfl
  | c :: cs, first, g, s => by
    unfold embedItems
    rw [← Session.forget_pause, ← apply_ite Session.forget]
    cases hask : p.recorded.embed (c.documentText o.segmentIdentifiers) false
        (if first then s else s.pause o.itemDelay) with
    | mk answer t =>
      rw [(Provider.embed_recorded hask).1]
      cases answer with
      | ok v => exact forget_embedItems cs false _ t
      | error e =>
        simp only []
        split
        · rfl
        · exact forget_embedItems cs false _ t

theorem forget_embedChunks (size : BatchSize) (g : Generation) (batch : List Chunk)
    (s : Session (Recorded σ)) :
    (embedChunks p.recorded o size g batch s).map id (Prod.map id Session.forget)
      = embedChunks p o size g batch s.forget := by
  have hsend : ∀ texts, (send p.recorded o.maxRetries texts s).map id Session.forget
      = send p o.maxRetries texts s.forget := fun texts => forget_sendAgain texts _ 0 s
  unfold embedChunks
  rw [← hsend]
  cases send p.recorded o.maxRetries (batch.map (·.documentText o.segmentIdentifiers)) s with
  | mk answer t =>
    cases answer with
    | ok vs => rfl
    | error e =>
      simp only [Prod.map_apply, id_eq]
      split
      · rfl
      · rw [← forget_embedItems]
        rfl

theorem forget_runFrom (stop : Nat → Bool) (total done : Nat) (reports : List Progress)
    (g : Generation) (size : BatchSize) (remaining : List Chunk) (s : Session (Recorded σ)) :
    (runFrom p.recorded o stop total done reports g size remaining s).forget
      = runFrom p o stop total done reports g size remaining s.forget := by
  unfold runFrom
  split
  · rfl
  split
  · rfl
  simp only []
  rw [← Session.forget_pause, ← apply_ite Session.forget, ← forget_embedChunks]
  cases embedChunks p.recorded o size g (remaining.take (min size.value remaining.length))
      (if done = 0 then s else s.pause o.batchDelay) with
  | mk answer t =>
    cases answer with
    | error e => rfl
    | ok g' => exact forget_runFrom stop total _ _ g' t.1 _ t.2
termination_by remaining.length
decreasing_by
  have hsize := size.one_le
  have hlen := List.length_pos_iff.mpr ‹remaining ≠ []›
  rw [List.length_drop]
  omega

/-- **記録しても、埋め込みの一部始終は変わらない。** -/
theorem forget_generate (p : Provider σ) (o : EmbeddingSettings) (stop : Nat → Bool)
    (size : BatchSize) (chunks : List Chunk) (s : Session (Recorded σ)) :
    (generate p.recorded o stop size chunks s).forget
      = generate p o stop size chunks s.forget := by
  have hdims : p.recorded.dimensions = p.dimensions := rfl
  unfold generate
  rw [forget_runFrom, hdims]

end Embedding

end CodeSearch
