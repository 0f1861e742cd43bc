import CodeSearch.Proofs.Embedding.Conservation

/-!
# 束の切り方によらない埋め込み

文書のベクトルが文書だけで決まる提供元（`Provider.Independent`）では、束をどう切っても、何度
送り直しても、どの束を一つずつ送ることになっても、成果は同じである。それは、断片を前から一つずつ
受け取ったもの（`Generation.acceptEach`）に等しい。

求めるベクトルの長さは前の断片から後の断片へ引き継がれるが、束の中でも束の間でも同じ順に
引き継ぐので、切り方によらない。

* `embedChunks_eq` — 束を埋め込むことは、その断片を一つずつ受け取ることである
* `generate_eq_sequential` — 埋め込みは、断片を一つずつ受け取ることである
-/

namespace CodeSearch

variable {σ : Type}

/-- 文書のベクトルが文書だけで決まる提供元。束は、いつ断ってもよいが、答えるときは一つずつ送った
ときと同じベクトルを順に返す。 -/
structure Provider.Independent (p : Provider σ) (f : String → Except Error Vec) : Prop where
  embed : ∀ t s, (p.embed t false s).1 = f t
  /-- 文書のせいで失敗しても、全体は止まらない。 -/
  harmless : ∀ t e, f t = .error e → e.isFatal = false
  batch : ∀ ts s, (∃ e, (p.embedBatch ts s).1 = .error e ∧ e.isFatal = false)
    ∨ ∃ vs, (p.embedBatch ts s).1 = .ok vs ∧ ts.map f = vs.map .ok

/-- 断片について提供元が答えること。失敗なら、その文面である。 -/
def Chunk.answer (f : String → Except Error Vec) (segment : Bool) (c : Chunk) : Except String Vec :=
  (f (c.documentText segment)).mapError Error.message

theorem Chunk.answer_of_eq {f : String → Except Error Vec} {segment : Bool} {c : Chunk}
    {r : Except Error Vec} (h : f (c.documentText segment) = r) :
    c.answer f segment = r.mapError Error.message :=
  congrArg (Except.mapError Error.message) h

namespace Generation

variable {normalizes segment : Bool} {f : String → Except Error Vec}

/-- 断片を前から一つずつ受け取る。 -/
def acceptEach (normalizes : Bool) (answer : Chunk → Except String Vec) (g : Generation)
    (cs : List Chunk) : Generation :=
  cs.foldl (fun g c => g.accept normalizes c (answer c)) g

/-- 束の答えがどれもベクトルなら、束を受け取ることは一つずつ受け取ることである。 -/
theorem acceptAll_eq_acceptEach : ∀ (cs : List Chunk) (vs : List Vec) (g : Generation),
    cs.map (fun c => f (c.documentText segment)) = vs.map .ok →
    g.acceptAll normalizes cs vs = g.acceptEach normalizes (Chunk.answer f segment) cs
  | [], vs, g, _ => by cases vs <;> rfl
  | c :: cs, [], g, h => by cases h
  | c :: cs, v :: vs, g, h => by
    obtain ⟨hc, hcs⟩ := List.cons.inj h
    have hanswer : c.answer f segment = .ok v := Chunk.answer_of_eq hc
    unfold acceptAll
    rw [acceptAll_eq_acceptEach cs vs _ hcs, ← hanswer]
    rfl

end Generation

namespace Embedding

variable {p : Provider σ} {f : String → Except Error Vec} {o : EmbeddingSettings}

/-- 束を何度送り直しても、断られるか、一つずつ送ったときと同じベクトルが返る。 -/
theorem sendAgain_independent (hp : p.Independent f) (texts : List String) :
    ∀ (retries failures : Nat) (s : Session σ),
    (∃ e, (sendAgain p texts failures retries s).1 = .error e ∧ e.isFatal = false)
      ∨ ∃ vs, (sendAgain p texts failures retries s).1 = .ok vs ∧ texts.map f = vs.map .ok
  | 0, _, s => hp.batch texts s
  | retries + 1, failures, s => by
    unfold sendAgain
    have hone := hp.batch texts s
    split
    · next vs s' heq =>
      rw [heq] at hone
      exact hone
    · next e s' heq =>
      rw [heq] at hone
      have hf : e.isFatal = false := by
        rcases hone with ⟨e', he, hf⟩ | ⟨vs, hvs, -⟩
        · cases he
          exact hf
        · cases hvs
      -- 断られても致命的ではないので、止まらずに送り直す
      rw [if_neg (by simp [hf])]
      exact sendAgain_independent hp texts retries (failures + 1) _

/-- 一つずつ送ることは、断片を一つずつ受け取ることである。 -/
theorem embedItems_eq (hp : p.Independent f) : ∀ (cs : List Chunk) (first : Bool) (g : Generation)
    (s : Session σ), (embedItems p o first g cs s).1
      = .ok (g.acceptEach p.normalizes (Chunk.answer f o.segmentIdentifiers) cs)
  | [], _, _, _ => rfl
  | c :: cs, first, g, s => by
    have hone := hp.embed (c.documentText o.segmentIdentifiers)
      (if first then s else s.pause o.itemDelay)
    unfold embedItems
    split
    · next v s' heq =>
      rw [heq] at hone
      have hanswer : c.answer f o.segmentIdentifiers = .ok v := Chunk.answer_of_eq hone.symm
      rw [embedItems_eq hp cs, ← hanswer]
      rfl
    · next e s' heq =>
      rw [heq] at hone
      have hanswer : c.answer f o.segmentIdentifiers = .error e.message :=
        Chunk.answer_of_eq hone.symm
      rw [if_neg (by simp [hp.harmless _ e hone.symm]), embedItems_eq hp cs, ← hanswer]
      rfl

/-- **束を埋め込むことは、その断片を一つずつ受け取ることである。** 束が断られたかによらない。 -/
theorem embedChunks_eq (hp : p.Independent f) (size : BatchSize) (g : Generation)
    (batch : List Chunk) (s : Session σ) :
    (embedChunks p o size g batch s).1
      = .ok (g.acceptEach p.normalizes (Chunk.answer f o.segmentIdentifiers) batch) := by
  have hsend := sendAgain_independent hp (batch.map (·.documentText o.segmentIdentifiers))
    (o.maxRetries - 1) 0 s
  unfold embedChunks send
  split
  · next vs s' heq =>
    rw [heq] at hsend
    rcases hsend with ⟨e, he, -⟩ | ⟨vs', hvs, hall⟩
    · cases he
    · cases hvs
      rw [List.map_map] at hall
      exact congrArg Except.ok (Generation.acceptAll_eq_acceptEach batch vs g hall)
  · next e s' heq =>
    rw [heq] at hsend
    rcases hsend with ⟨e', he, hf⟩ | ⟨vs, hvs, -⟩
    · cases he
      rw [if_neg (by simp [hf])]
      exact embedItems_eq hp batch true g s'
    · cases hvs

/-- 束をいくつ埋め込んでも、その断片を一つずつ受け取ったものになる。 -/
theorem Stage.Passes.generation_eq (hp : p.Independent f) {stop : Nat → Bool} {t u : Stage σ}
    {batches : List (List Chunk)} (h : Stage.Passes p o stop t batches u) :
    u.generation = t.generation.acceptEach p.normalizes (Chunk.answer f o.segmentIdentifiers)
      batches.flatten := by
  induction h with
  | refl t => rfl
  | @step t u v batches hstep _ ih =>
    cases hstep with
    | embed _ _ hbatch =>
      -- 求める長さも受け取った列も成果の中にあるので、束の切れ目をまたいで畳み込みがつながる
      have hone := congrArg Prod.fst hbatch
      rw [Stage.embed, embedChunks_eq hp] at hone
      unfold Generation.acceptEach at ih hone ⊢
      rw [List.flatten_cons, List.foldl_append, ih, Except.ok.inj hone]
      rfl

/--
**束の切り方・送り直し・一つずつ送ることは、成果を変えない。**

文書のベクトルが文書だけで決まるなら、途中でやめない埋め込みは必ず成果を返し、それは断片を前から
一つずつ受け取ったものである。束の大きさ・送り直す回数・休む時間・束が断られる様子によらない。
-/
theorem generate_eq_sequential (hp : p.Independent f) (o : EmbeddingSettings) (size : BatchSize)
    (chunks : List Chunk) (s : Session σ) :
    (generate p o (fun _ => false) size chunks s).result
      = .ok (Generation.acceptEach p.normalizes (Chunk.answer f o.segmentIdentifiers)
        { dimensions := p.dimensions } chunks) := by
  obtain ⟨batches, u, hpass, hend⟩ := generate_cases p o (fun _ => false) size chunks s
  have hgen := hpass.generation_eq hp
  have hchunks : chunks = batches.flatten ++ u.remaining := hpass.remaining_eq
  cases hend with
  | finished hnil hres =>
    rw [hnil, List.append_nil] at hchunks
    rw [hres, hgen, hchunks]
    rfl
  | stopped _ hstop => cases hstop
  | failed e _ _ hbatch =>
    rw [Stage.embed, embedChunks_eq hp] at hbatch
    cases hbatch

/-! ### 三度断られる埋め込み -/

/-- 列に写した結果は、どれかの失敗か、一つずつ写した値の列である。 -/
theorem mapM_cases (f : String → Except Error Vec) : ∀ ts : List String,
    (∃ t ∈ ts, ∃ e, f t = .error e ∧ ts.mapM f = .error e)
      ∨ ∃ vs, ts.mapM f = .ok vs ∧ ts.map f = vs.map .ok
  | [] => Or.inr ⟨[], rfl, rfl⟩
  | t :: ts => by
    rw [List.mapM_cons, List.map_cons]
    cases ht : f t with
    | error e => exact Or.inl ⟨t, List.mem_cons_self, e, ht, rfl⟩
    | ok v =>
      rcases mapM_cases f ts with ⟨t', ht', e, he, hall⟩ | ⟨vs, hvs, hmap⟩
      · rw [hall]
        exact Or.inl ⟨t', List.mem_cons_of_mem t ht', e, he, rfl⟩
      · rw [hvs, hmap]
        exact Or.inr ⟨v :: vs, rfl, rfl⟩

theorem reluctant_independent {f : String → Except Error Vec}
    (hf : ∀ t e, f t = .error e → e.isFatal = false) : (reluctant f).Independent f where
  embed := fun _ _ => rfl
  harmless := hf
  batch := by
    intro ts s
    unfold reluctant
    simp only []
    split
    · rcases mapM_cases f ts with ⟨t, -, e, he, hall⟩ | hok
      · exact Or.inl ⟨e, hall, hf t e he⟩
      · exact Or.inr hok
    · exact Or.inl ⟨_, rfl, rfl⟩

/-- 三度断られて束を半分にしても、成果は一つずつ受け取ったものである。 -/
theorem generate_eq_sequential_refused :
    (reluctant statement).Independent statement
    ∧ (generate (reluctant statement) { maxRetries := 2 } (fun _ => false) (.ofNat 4) remarks
        { peer := 3 }).result
      = .ok (Generation.acceptEach false (Chunk.answer statement true) {} remarks)
    ∧ (Generation.acceptEach false (Chunk.answer statement true) {} remarks).embedded.length = 5
    ∧ (Generation.acceptEach false (Chunk.answer statement true) {} remarks).failed.map (·.reason)
      = ["embedding error: not a statement"] := by
  have hp : (reluctant statement).Independent statement := by
    refine reluctant_independent fun t e h => ?_
    unfold statement at h
    split at h <;> cases h
    rfl
  refine ⟨hp, ?_, by decide +kernel, by decide +kernel⟩
  exact generate_eq_sequential hp { maxRetries := 2 } (.ofNat 4) remarks { peer := 3 }

end Embedding

end CodeSearch
