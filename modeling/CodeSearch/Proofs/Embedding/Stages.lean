import CodeSearch.Embedding.Generation

/-!
# 埋め込みの経過

埋め込みは、束を一つ埋め込む一歩を繰り返したものである。束と束の間の状態を `Stage` とする。

* `Stage.Passes` — いくつかの束を無事に埋め込んで、ある状態から別の状態へ進むこと
* `Stage.Ends` — 進んだ先での終わり方。やり終えるか、やめるか、次の束で失敗するかの三つである
* `Stage.run` — ある状態から先の埋め込み。一歩ごとの等式をもつ
* `generate_cases` — どの埋め込みも、いくつかの束を経て、三つのどれかで終わる

束の列について述べることは、一歩についての事実から `Stage.Passes` の帰納法で導く。
-/

namespace CodeSearch.Embedding

variable {σ : Type}

/-- 束と束の間の状態。 -/
structure Stage (σ : Type) where
  /-- 済んだ断片の数。 -/
  done : Nat
  generation : Generation
  /-- 次の束の大きさ。 -/
  size : BatchSize
  remaining : List Chunk
  session : Session σ

namespace Stage

/-- 始めの状態。 -/
def start (p : Provider σ) (size : BatchSize) (chunks : List Chunk) (s : Session σ) : Stage σ :=
  { done := 0, generation := { dimensions := p.dimensions }, size, remaining := chunks,
    session := s }

/-- 次の束の断片の数。 -/
def count (t : Stage σ) : Nat := min t.size.value t.remaining.length

/-- 次の束。 -/
def batch (t : Stage σ) : List Chunk := t.remaining.take t.count

/-- 次の束を埋め込む。最初の束でなければ、その前に休む。 -/
def embed (p : Provider σ) (o : EmbeddingSettings) (t : Stage σ) :
    Except Error Generation × BatchSize × Session σ :=
  embedChunks p o t.size t.generation t.batch
    (if t.done = 0 then t.session else t.session.pause o.batchDelay)

/-- 次の束を済ませた状態。 -/
def next (t : Stage σ) (g : Generation) (size : BatchSize) (s : Session σ) : Stage σ :=
  { done := t.done + t.count, generation := g, size, remaining := t.remaining.drop t.count,
    session := s }

theorem count_pos {t : Stage σ} (h : t.remaining ≠ []) : 0 < t.count := by
  have hsize := t.size.one_le
  have hlen := List.length_pos_iff.mpr h
  unfold count
  omega

theorem length_batch (t : Stage σ) : t.batch.length = t.count := by
  have hcount : t.count ≤ t.remaining.length := Nat.min_le_right _ _
  rw [batch, List.length_take, Nat.min_eq_left hcount]

theorem batch_append_remaining (t : Stage σ) (g : Generation) (size : BatchSize) (s : Session σ) :
    t.batch ++ (t.next g size s).remaining = t.remaining :=
  List.take_append_drop t.count t.remaining

variable {p : Provider σ} {o : EmbeddingSettings} {stop : Nat → Bool} {t u v : Stage σ}
  {batches : List (List Chunk)}

/-- やめる合図がなく、次の束を無事に埋め込む一歩。 -/
inductive Step (p : Provider σ) (o : EmbeddingSettings) (stop : Nat → Bool) (t : Stage σ) :
    Stage σ → Prop where
  | embed {g : Generation} {size : BatchSize} {s : Session σ} :
      t.remaining ≠ [] → stop t.done = false → t.embed p o = (.ok g, size, s) →
      Step p o stop t (t.next g size s)

/-- 束の列 `batches` を順に埋め込んで、`t` から `u` へ進む。 -/
inductive Passes (p : Provider σ) (o : EmbeddingSettings) (stop : Nat → Bool) :
    Stage σ → List (List Chunk) → Stage σ → Prop where
  | refl (t : Stage σ) : Passes p o stop t [] t
  | step {t u v : Stage σ} {batches : List (List Chunk)} : Step p o stop t u →
      Passes p o stop u batches v → Passes p o stop t (t.batch :: batches) v

/-- 残りは、埋め込んだ束と、まだ残っている断片をつないだものである。 -/
theorem Passes.remaining_eq (h : Passes p o stop t batches u) :
    t.remaining = batches.flatten ++ u.remaining := by
  induction h with
  | refl t => rfl
  | @step t u v batches hstep _ ih =>
    cases hstep with
    | embed _ _ _ => rw [List.flatten_cons, List.append_assoc, ← ih, t.batch_append_remaining]

theorem Passes.ne_nil_of_mem (h : Passes p o stop t batches u) : ∀ b ∈ batches, b ≠ [] := by
  induction h with
  | refl t => exact nofun
  | @step t u v batches hstep _ ih =>
    cases hstep with
    | embed hne _ _ =>
      refine List.forall_mem_cons.mpr ⟨fun hnil => ?_, ih⟩
      have hpos := count_pos hne
      rw [← t.length_batch, hnil] at hpos
      cases hpos

/-- 束の列のどこで切っても、そこに境がある。 -/
theorem Passes.split {front back : List (List Chunk)}
    (h : Passes p o stop t (front ++ back) u) :
    ∃ v, Passes p o stop t front v ∧ Passes p o stop v back u := by
  induction front generalizing t with
  | nil => exact ⟨t, .refl t, h⟩
  | cons b front ih =>
    cases h with
    | step hstep hrest =>
      obtain ⟨v, hfront, hback⟩ := ih hrest
      exact ⟨v, .step hstep hfront, hback⟩

/-- `u` での終わり方。 -/
inductive Ends (p : Provider σ) (o : EmbeddingSettings) (stop : Nat → Bool) (u : Stage σ)
    (r : Run σ) : Prop where
  /-- すべての断片が済んだ。 -/
  | finished : u.remaining = [] → r.result = .ok u.generation → r.size = u.size →
      r.session = u.session → Ends p o stop u r
  /-- 合図があってやめた。 -/
  | stopped : u.remaining ≠ [] → stop u.done = true →
      r.result = .ok { u.generation with cancelled := true } → r.size = u.size →
      r.session = u.session → Ends p o stop u r
  /-- 次の束で致命的な失敗をした。 -/
  | failed (e : Error) : u.remaining ≠ [] → stop u.done = false → (u.embed p o).1 = .error e →
      r.result = .error e → r.size = (u.embed p o).2.1 → r.session = (u.embed p o).2.2 →
      Ends p o stop u r

/-! ## 一歩の等式 -/

/-- 状態 `t` から先の埋め込み。 -/
def run (p : Provider σ) (o : EmbeddingSettings) (stop : Nat → Bool) (total : Nat)
    (reports : List Progress) (t : Stage σ) : Run σ :=
  runFrom p o stop total t.done reports t.generation t.size t.remaining t.session

section

variable {total : Nat} {reports : List Progress} {g : Generation} {size : BatchSize}
  {s : Session σ}

/-- 断片が残っていなければ、合図があってもやり終える。 -/
theorem run_of_nil (h : t.remaining = []) : t.run p o stop total reports
    = { result := .ok t.generation, reports, size := t.size, session := t.session } := by
  unfold run runFrom
  rw [dif_pos h]

theorem run_of_stop (h : t.remaining ≠ []) (hstop : stop t.done = true) :
    t.run p o stop total reports
      = { result := .ok { t.generation with cancelled := true }, reports, size := t.size,
          session := t.session } := by
  unfold run runFrom
  rw [dif_neg h, if_pos hstop]

theorem embedChunks_eq_embed (t : Stage σ) : embedChunks p o t.size t.generation
    (t.remaining.take (min t.size.value t.remaining.length))
    (if t.done = 0 then t.session else t.session.pause o.batchDelay) = t.embed p o := rfl

/-- 次の束を無事に埋め込めば、報告が一つ増える。 -/
theorem run_of_ok (h : t.remaining ≠ []) (hgo : stop t.done = false)
    (hbatch : t.embed p o = (.ok g, size, s)) : t.run p o stop total reports
      = (t.next g size s).run p o stop total
          (reports ++ [report (t.done + t.count) total]) := by
  unfold run
  rw [runFrom, dif_neg h, if_neg (Bool.eq_false_iff.mp hgo)]
  simp only [embedChunks_eq_embed, hbatch]
  rfl

theorem run_of_error {e : Error} (h : t.remaining ≠ []) (hgo : stop t.done = false)
    (hbatch : t.embed p o = (.error e, size, s)) : t.run p o stop total reports
      = { result := .error e, reports, size, session := s } := by
  unfold run
  rw [runFrom, dif_neg h, if_neg (Bool.eq_false_iff.mp hgo)]
  simp only [embedChunks_eq_embed, hbatch]

end

/-- **どの状態から埋め込んでも、いくつかの束を経て、三つのどれかで終わる。** -/
theorem run_cases (p : Provider σ) (o : EmbeddingSettings) (stop : Nat → Bool) (total : Nat)
    (reports : List Progress) (t : Stage σ) :
    ∃ batches u, Passes p o stop t batches u ∧ u.Ends p o stop
      (t.run p o stop total reports) := by
  by_cases hnil : t.remaining = []
  · rw [run_of_nil hnil]
    exact ⟨[], t, .refl t, .finished hnil rfl rfl rfl⟩
  by_cases hstop : stop t.done = true
  · rw [run_of_stop hnil hstop]
    exact ⟨[], t, .refl t, .stopped hnil hstop rfl rfl rfl⟩
  rw [Bool.not_eq_true] at hstop
  cases hbatch : t.embed p o with
  | mk result rest =>
    cases result with
    | error e =>
      rw [run_of_error hnil hstop hbatch]
      refine ⟨[], t, .refl t, .failed e hnil hstop ?_ rfl ?_ ?_⟩ <;> rw [hbatch]
    | ok g =>
      -- 束の分だけ短くなった残りに帰納法を使う
      have hpos := count_pos hnil
      have hlen := List.length_pos_iff.mpr hnil
      rw [run_of_ok hnil hstop hbatch]
      obtain ⟨batches, u, hpass, hend⟩ := run_cases p o stop total
        (reports ++ [report (t.done + t.count) total]) (t.next g rest.1 rest.2)
      exact ⟨t.batch :: batches, u, .step (.embed hnil hstop hbatch) hpass, hend⟩
termination_by t.remaining.length
decreasing_by
  show (t.remaining.drop t.count).length < t.remaining.length
  rw [List.length_drop]
  omega

end Stage

/-- **どの埋め込みも、いくつかの束を経て、三つのどれかで終わる。** -/
theorem generate_cases (p : Provider σ) (o : EmbeddingSettings) (stop : Nat → Bool)
    (size : BatchSize) (chunks : List Chunk) (s : Session σ) :
    ∃ batches u, Stage.Passes p o stop (.start p size chunks s) batches u
      ∧ u.Ends p o stop (generate p o stop size chunks s) :=
  Stage.run_cases p o stop chunks.length [] (.start p size chunks s)

end CodeSearch.Embedding
