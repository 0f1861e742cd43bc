import CodeSearch.Proofs.Engine.History

/-!
# 索引づけはファイルごとに全部か無か

空にしないでやり直す索引づけが失敗すれば、渡されたファイルの行・ベクトル・記録は前のままである。
失敗しなければ、どのファイルも前のままか、新しい断片の全部が勘定に入った姿に替わる。
二つの版の行が混ざることも、新しい版の前の部分だけが残ることもない。

これは達しうるどの状態でも成り立つ。設定・文法・提供元は、途中で何に替わっていてもよい。

* `Reachable.sound` — 達しうる状態の不変条件
* `storeFiles_eq_ok` — 確かめを通った成果の保存は、途中で断られない
-/

namespace CodeSearch

namespace Engine

/-- 空の保存先から、索引づけ・消去・開き直しで達する状態。 -/
inductive Reachable : Engine → Prop where
  | new (settings : Settings) (loader : Loader) (digest : String → String) (lexical : Bool) :
      Reachable (Engine.new settings loader digest (.empty lexical))
  | perform {σ : Type} {e : Engine} (p : Provider σ) (r : Request σ) : Reachable e →
      Reachable (r.perform p e).engine
  | clear {e : Engine} : Reachable e → Reachable { e with store := e.store.clear }
  | reopen {e : Engine} (settings : Settings) (loader : Loader) (digest : String → String)
      (lexical : Bool) : Reachable e →
      Reachable (Engine.new settings loader digest (e.store.reopen lexical))

/-- 達しうる状態では、保管は読み込みと食い違わず、保存先の名前はパスと範囲から決まる。 -/
theorem Reachable.sound {e : Engine} (h : Reachable e) :
    (∃ loader, e.registry.Agrees loader) ∧ e.store.Canonical := by
  induction h with
  | new settings loader digest lexical =>
    have hnew := faithful_new (fun _ _ => True) flaky settings loader digest lexical
    exact ⟨⟨loader, hnew.agrees⟩, hnew.canonical⟩
  | perform p r _ ih =>
    obtain ⟨⟨loader, hagrees⟩, hcan⟩ := ih
    obtain ⟨-, hnext, hstore⟩ := r.perform_frame hagrees hcan p
    exact ⟨⟨loader, hnext⟩, hstore⟩
  | @clear e _ ih => exact ⟨ih.1, Store.canonical_clear e.store⟩
  | reopen settings loader digest lexical _ ih =>
    exact ⟨⟨loader, Registry.agrees_ofLoader loader⟩, ih.2⟩

section

variable {σ : Type} {e : Engine} {loader : Loader} {p : Provider σ} {r : Request σ}

/-- 保存の前の確かめが通れば、ファイルを入れ替える途中で断られることはない。 -/
theorem storeFiles_eq_ok (hr : e.registry.Agrees loader) (hcan : e.store.Canonical)
    (hd : r.Distinct) {g : Generation} (hg : r.generated p e = .ok g)
    (hok : checkDimensions (r.base e) g.embedded = .ok ()) (counts : List (String × Nat))
    (hashes : List (String × String)) (total : Nat) :
    (storeFiles counts hashes g.failed total { store := r.base e, waiting := g.embedded } 1
      (r.todo e)).1 = .ok () := by
  obtain ⟨n, -, hacc, -⟩ := generation_accounts hr p.answers_anything hg
  obtain ⟨m, hsound⟩ := sound_of_accounts (Request.canonical_base hcan r) (hd.todo e) hacc hok
  obtain ⟨st', hall, -⟩ := storeFiles_spec counts hashes g.failed total hsound (hd.todo e) 1
  rw [hall]

/--
**索引づけはファイルごとに全部か無かである。**

* 失敗すれば、渡されたどのファイルも前のままである。
* 失敗しなければ、途中でやめたかどうかによらず、渡されたどのファイルも、前のままか、
  埋め込みの成果による新しい姿かのどちらかである。
* 長さの確かめを通った成果の保存は、途中で断られない。
-/
theorem perform_all_or_nothing (he : Reachable e) (p : Provider σ) (r : Request σ)
    (hd : r.Distinct) (hfull : r.full = false) :
    (∀ err, (r.perform p e).result = .error err → ∀ f ∈ r.files,
      Store.Untouched f.path e.store (r.perform p e).engine.store)
    ∧ (∀ summary, (r.perform p e).result = .ok summary → ∀ f ∈ r.files,
      Store.Untouched f.path e.store (r.perform p e).engine.store
      ∨ ∃ g, r.generated p e = .ok g
        ∧ Replaced e.limits e.registry.loader e.digest f g (r.perform p e).engine.store)
    ∧ ∀ g, r.generated p e = .ok g → checkDimensions (r.base e) g.embedded = .ok () →
      ∀ counts hashes total, (storeFiles counts hashes g.failed total
        { store := r.base e, waiting := g.embedded } 1 (r.todo e)).1 = .ok () := by
  obtain ⟨⟨loader, hagrees⟩, hcan⟩ := he.sound
  have hbase : ∀ f ∈ r.files, Store.Untouched f.path e.store (r.base e) :=
    fun f hf => Request.untouched_base hfull hf
  have hend := Request.outcome (p := p) hagrees hcan hd
  refine ⟨?_, ?_, fun g hg hok => storeFiles_eq_ok hagrees hcan hd hg hok⟩
  · intro err herr f hf
    rw [hend.store_eq_of_error herr]
    exact hbase f hf
  · intro summary _ f hf
    by_cases hin : f.path ∈ (r.todo e).map (·.path)
    · have hftodo := Request.mem_todo_of_path hd hf hin
      rcases hend.untouched_or_replaced hftodo with hu | ⟨g, hg, hnew⟩
      · exact Or.inl ((hbase f hf).trans hu)
      · refine Or.inr ⟨g, hg, ?_⟩
        rw [hagrees.loader_eq]
        exact hnew
    · -- 内容の変わらないファイルは、切りもしない
      exact Or.inl ((hbase f hf).trans (hend.untouched_of_notMem hin))

end

/-! ### 途中でやめた索引づけ -/

/-- 断片を一つずつ送る設定。 -/
def oneByOne : Settings := { embedding := { batchSize := 1 } }

/-- 断片を一つずつ送る設定で、何も索引づけしていない状態。 -/
def freshOneByOne : Engine := new oneByOne .builtin Digest.hex (.empty true)

/-- 一つの断片が済んだところでやめる依頼。 -/
def stoppedRequest : Request Bool := .index false (fun done => 1 ≤ done) [] notes { peer := true }

/-- 途中でやめても、どのファイルも前のままか新しい姿かのどちらかである。 -/
theorem perform_all_or_nothing_stopped :
    Reachable freshOneByOne
    ∧ ∃ summary, (stoppedRequest.perform flaky freshOneByOne).result
        = .ok summary
      ∧ summary.cancelled = true ∧ summary.successfulChunks = 1
      ∧ ∀ f ∈ notes,
        Store.Untouched f.path (.empty true)
          (stoppedRequest.perform flaky freshOneByOne).engine.store
        ∨ ∃ g, stoppedRequest.generated flaky freshOneByOne = .ok g
          ∧ Replaced (limitsOf oneByOne) .builtin Digest.hex f g
            (stoppedRequest.perform flaky freshOneByOne).engine.store := by
  have hnew : Reachable freshOneByOne := .new oneByOne .builtin Digest.hex true
  have hres : (stoppedRequest.perform flaky freshOneByOne).result.toOption.map
      (fun s => (s.cancelled, s.successfulChunks)) = some (true, 1) := by
    decide +kernel
  have hd : stoppedRequest.Distinct := by
    show (notes.map (·.path)).Nodup
    decide
  refine ⟨hnew, ?_⟩
  cases hrun : (stoppedRequest.perform flaky freshOneByOne).result with
  | error err =>
    rw [hrun] at hres
    cases hres
  | ok summary =>
    rw [hrun] at hres
    obtain ⟨hcancel, hcount⟩ := Prod.mk.inj (Option.some.inj hres)
    exact ⟨summary, rfl, hcancel, hcount,
      (perform_all_or_nothing hnew flaky stoppedRequest hd rfl).2.1 summary hrun⟩

end Engine

end CodeSearch
