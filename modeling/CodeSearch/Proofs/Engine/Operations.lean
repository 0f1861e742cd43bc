import CodeSearch.Proofs.Engine.Atomicity
import CodeSearch.Proofs.Store.Representation

/-!
# 依頼と保存先の操作

依頼を処理する間に保存先に起きるのは、ファイルの消去・入れ替え・記録だけである。だから達しうる状態の
保存先は、空の保存先から操作を重ねて得られ、その不変条件（`Store.Sound`）を満たす。

* `Request.perform_cases` — することがないか、失敗するか、成果を順に保存するかのどれかである
* `Reachable.store` — 達しうる状態の保存先は、操作を重ねて得られる
-/

namespace CodeSearch

namespace Engine

/-- 結果から読んだものがあるなら、その結果は失敗ではない。 -/
theorem exists_ok_of_toOption {ε β γ : Type} {result : Except ε β} {read : β → γ} {x : γ}
    (h : result.toOption.map read = some x) : ∃ b, result = .ok b ∧ read b = x := by
  cases result with
  | error err => cases h
  | ok b => exact ⟨b, rfl, Option.some.inj h⟩

variable {σ : Type}

/-! ## 経過 -/

namespace Request

/-- ファイルを切った結果。 -/
def outcomes (e : Engine) (r : Request σ) : List ChunkOutcome :=
  (e.chunked r.schedule (r.todo e)).1

/-- 成果を順に保存した結果と、そのときの進み具合。 -/
def storing (e : Engine) (r : Request σ) (g : Generation) : Except Error Unit × Storing :=
  storeFiles (chunkCounts (r.todo e) (r.outcomes e)) (hashesOf e.digest (r.todo e)) g.failed
    (r.todo e).length { store := r.base e, waiting := g.embedded } 1 (r.todo e)

/-- **依頼の経過。** 切るファイルがないか、保存先に触れる前に失敗するか、長さの確かめを通った成果を
順に保存するかのどれかである。 -/
theorem perform_cases (p : Provider σ) (e : Engine) (r : Request σ) :
    (r.todo e = [] ∧ (r.perform p e).result = .ok (r.relabel { success := true })
      ∧ (r.perform p e).engine = { e with store := r.base e })
    ∨ ((∃ err, (r.perform p e).result = .error err)
      ∧ (r.perform p e).engine.store = r.base e)
    ∨ ∃ g, r.generated p e = .ok g ∧ checkDimensions (r.base e) g.embedded = .ok ()
      ∧ (r.perform p e).result = (r.storing e g).1.map (fun _ =>
        r.relabel (summaryOf (r.todo e) (r.outcomes e) g (r.storing e g).2.stored))
      ∧ (r.perform p e).engine.store = (r.storing e g).2.store := by
  -- 依頼は、ファイルを切って埋め込む `run` と、成果を保存して数える `finish` とに分かれる
  rw [perform_eq p e r]
  rcases run_cases p r.stop r.schedule { e with store := r.base e } (r.todo e)
    (hashesOf e.digest (r.todo e)) r.session with ⟨hnil, hres, heng⟩ |
      ⟨err, registry, size, hres, heng, -⟩ | ⟨g, reports, size, s, hg, hfinish⟩
  · refine Or.inl ⟨hnil, ?_, heng⟩
    rw [hres]
    rfl
  · refine Or.inr (Or.inl ⟨⟨err, ?_⟩, ?_⟩)
    · rw [hres]
      rfl
    · rw [heng]
  · rw [hfinish]
    rcases finish_cases
      { e with store := r.base e, registry := (e.chunked r.schedule (r.todo e)).2, size := size }
      (r.todo e) (hashesOf e.digest (r.todo e)) (r.outcomes e) g reports s with
      ⟨⟨err, hres⟩, heng⟩ | ⟨hok, stored, st, hstore, heng, hres⟩
    · refine Or.inr (Or.inl ⟨⟨err, ?_⟩, ?_⟩)
      · exact congrArg (Except.map r.relabel) hres
      · exact congrArg Engine.store heng
    · have hstoring : r.storing e g = (stored, st) := hstore
      refine Or.inr (Or.inr ⟨g, hg, hok, ?_, ?_⟩)
      · rw [hstoring]
        refine (congrArg (Except.map r.relabel) hres).trans ?_
        cases stored <;> rfl
      · rw [hstoring]
        exact congrArg Engine.store heng

/-! ### 断片 -/

variable {p : Provider σ} {e : Engine} {r : Request σ} {loader : Loader}

/-- 切った断片。 -/
def chunks (e : Engine) (r : Request σ) : List Chunk := (r.outcomes e).flatMap (·.chunks)

theorem chunks_eq (h : e.registry.Agrees loader) (r : Request σ) :
    r.chunks e = pieces e.limits loader (r.todo e) :=
  flatMap_chunked h r.schedule (r.todo e)

/-- 切るファイルがなければ、埋め込みの成果は空である。 -/
theorem generated_of_todo_nil (p : Provider σ) (h : r.todo e = []) :
    r.generated p e = .ok { dimensions := p.dimensions } := by
  unfold generated generation chunked
  rw [h, Chunking.chunkThrough_nil]
  show (Embedding.runFrom p _ _ _ _ _ _ _ [] _).result = _
  rw [Embedding.runFrom, dif_pos rfl]

/-- 断片の名前に重なりはなく、送った断片は、埋め込めたか埋め込めなかったかのどちらか一方である。 -/
theorem generated_accounts (hr : e.registry.Agrees loader) (hd : r.Distinct) {g : Generation}
    (hg : r.generated p e = .ok g) :
    ((r.chunks e).map (·.id)).Nodup
    ∧ ∃ n ≤ (r.chunks e).length, Interleaved (g.embedded.map Chunk.bare)
        (g.failed.map (·.chunk.bare)) ((r.chunks e).take n)
      ∧ (g.cancelled = true ↔ n < (r.chunks e).length)
      ∧ g.Accounts (fun _ _ => True) p.normalizes e.settings.embedding.segmentIdentifiers
        ((pieces e.limits loader (r.todo e)).take n) := by
  obtain ⟨n, hle, hacc, hcancel⟩ := generation_accounts hr p.answers_anything hg
  have hsplit := hacc.interleaved
  rw [map_bare_take_pieces] at hsplit
  rw [chunks_eq hr]
  exact ⟨ids_nodup_pieces (hd.todo e), n, hle, hsplit, hcancel, hacc⟩

end Request

/-! ## 操作の列 -/

theorem reachable_recorded {t : Store} (h : t.Reachable) (hashes : List (String × String))
    (failed : List FailedChunk) (path : String) : (recorded hashes failed t path).Reachable := by
  unfold recorded
  split
  · cases lastOf hashes path with
    | none => exact h
    | some hash => exact h.step (.recordFile path hash)
  · exact h

/-- 断片の揃わないファイルは飛ばし、揃ったファイルは入れ替えて記録する。どちらも操作の列である。 -/
theorem reachable_storeFiles (counts : List (String × Nat)) (hashes : List (String × String))
    (failed : List FailedChunk) (total : Nat) : ∀ (files : List SourceFile) {st : Storing},
    st.store.Reachable → ∀ position : Nat,
    (storeFiles counts hashes failed total st position files).2.store.Reachable
  | [], _, h, _ => h
  | f :: fs, st, h, position => by
    unfold storeFiles
    split
    · exact h
    · next st₁ hone =>
      refine reachable_storeFiles counts hashes failed total fs ?_ (position + 1)
      rcases (storeFile_cases counts hashes failed total hone).2 with ⟨-, hstore, -⟩ |
        ⟨-, n, t, ht, hstore, -⟩
      · rw [hstore]
        exact h
      · rw [hstore]
        exact reachable_recorded (h.replaceFile ht) hashes failed f.path

namespace Request

variable {e : Engine}

theorem reachable_base (h : e.store.Reachable) (r : Request σ) : (r.base e).Reachable := by
  cases r with
  | index full stop schedule files session =>
    have hstart : (if full then e.store.clear else e.store).Reachable := by
      split
      · exact h.step .clear
      · exact h
    exact hstart.dropFiles _
  | reindex file session => exact h

/-- **依頼は、得られる保存先を得られる保存先に変える。** 失敗しても、パスが重なっていてもよい。 -/
theorem reachable_perform (h : e.store.Reachable) (p : Provider σ) (r : Request σ) :
    (r.perform p e).engine.store.Reachable := by
  have hbase := reachable_base h r
  rcases r.perform_cases p e with ⟨-, -, heng⟩ | ⟨-, hstore⟩ | ⟨g, -, -, -, hstore⟩
  · rw [heng]
    exact hbase
  · rw [hstore]
    exact hbase
  · rw [hstore]
    exact reachable_storeFiles _ _ _ _ (r.todo e) hbase 1

end Request

/-- **達しうる状態の保存先は、空の保存先から操作を重ねて得られる。** -/
theorem Reachable.store {e : Engine} (h : Reachable e) : e.store.Reachable := by
  induction h with
  | new settings loader digest lexical => exact .empty lexical
  | perform p r _ ih => exact r.reachable_perform ih p
  | clear _ ih => exact ih.step .clear
  | reopen settings loader digest lexical _ ih => exact ih.step (.reopen lexical)

end Engine

end CodeSearch
