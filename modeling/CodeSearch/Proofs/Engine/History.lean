import CodeSearch.Digest
import CodeSearch.Proofs.Engine.Outcome

/-!
# 索引づけの履歴

空の索引から、索引づけの依頼を次々に処理する。途中で失敗したり、やめたり、断片の一部が
埋め込めなかったりしても、要約の記録されたファイルの行は、その内容を切った断片の全部である。

これを不変条件 `Faithful` として述べる。提供元が返すベクトルの条件 `R` は何でもよい。

* `Faithful.perform` — 一つの依頼は不変条件を保つ
* `Faithful.after` — 依頼の列も保つ
-/

namespace CodeSearch

namespace Engine

variable {σ : Type}

/-! ## 見つからなくなったファイル -/

theorem untouched_sweep {store : Store} {files : List SourceFile} {path : String}
    (h : path ∈ files.map (·.path)) : Store.Untouched path store (sweep store files) := by
  refine Store.untouched_dropFiles store ?_
  rw [List.mem_filter, not_and]
  intro _
  obtain ⟨f, hf, rfl⟩ := List.mem_map.mp h
  simp only [List.all_eq_true, bne_iff_ne, ne_eq, not_forall, Decidable.not_not]
  exact ⟨f, hf, rfl⟩

theorem absent_sweep {store : Store} {files : List SourceFile} {path : String}
    (h : path ∉ files.map (·.path)) : Store.Absent path (sweep store files) := by
  by_cases hin : path ∈ store.files
  · refine Store.absent_dropFiles store (List.mem_filter.mpr ⟨hin, ?_⟩)
    rw [List.all_eq_true]
    intro f hf
    simpa using fun heq => h (List.mem_map.mpr ⟨f, hf, heq⟩)
  · refine (Store.absent_of_notMem_files hin).untouched (Store.untouched_dropFiles store ?_)
    exact fun hm => hin (List.mem_filter.mp hm).1

/-! ## 依頼 -/

/-- 索引づけの依頼。 -/
inductive Request (σ : Type) where
  /-- 見つかったすべてのファイルに索引を合わせる。`schedule` は切る作業者の手番の列である。 -/
  | index (full : Bool) (stop : Nat → Bool) (schedule : List Nat) (files : List SourceFile)
    (session : Session σ)
  /-- 一つのファイルをやり直す。 -/
  | reindex (file : SourceFile) (session : Session σ)

namespace Request

/-- 渡されたファイル。 -/
def files : Request σ → List SourceFile
  | index _ _ _ files _ => files
  | reindex file _ => [file]

/-- 空にしてからやり直すか。 -/
def full : Request σ → Bool
  | index full _ _ _ _ => full
  | reindex _ _ => false

/-- やめる合図。 -/
def stop : Request σ → Nat → Bool
  | index _ stop _ _ _ => stop
  | reindex _ _ => fun _ => false

/-- 切る作業者の手番の列。一つのファイルは一人で切る。 -/
def schedule : Request σ → List Nat
  | index _ _ schedule _ _ => schedule
  | reindex _ _ => []

/-- 始めるときの提供元とのやりとり。 -/
def session : Request σ → Session σ
  | index _ _ _ _ session => session
  | reindex _ session => session

/-- 渡されたファイルのパスが互いに違うこと。 -/
def Distinct (r : Request σ) : Prop := (r.files.map (·.path)).Nodup

/-- 依頼を処理する。 -/
def perform (p : Provider σ) (e : Engine) : Request σ → IndexRun σ
  | index full stop schedule files session => Engine.index p stop schedule full e files session
  | reindex file session => Engine.reindex p e file session

/-- 見つからなくなったファイルを消した後の保存先。 -/
def base (e : Engine) : Request σ → Store
  | index full _ _ files _ => sweep (if full then e.store.clear else e.store) files
  | reindex _ _ => e.store

/-- 切って埋め込むファイル。 -/
def todo (e : Engine) : Request σ → List SourceFile
  | index full _ _ files _ =>
    changed e.digest (sweep (if full then e.store.clear else e.store) files) files
  | reindex file _ => [file]

/-- 埋め込みの成果。 -/
def generated (p : Provider σ) (e : Engine) (r : Request σ) : Except Error Generation :=
  generation p r.stop r.schedule e (r.todo e) r.session

variable {loader : Loader} {p : Provider σ} {e : Engine} {r : Request σ}

theorem todo_sublist (e : Engine) (r : Request σ) : (r.todo e).Sublist r.files := by
  cases r with
  | index full stop schedule files session => exact List.filter_sublist
  | reindex file session => exact List.Sublist.refl _

theorem Distinct.todo (hd : r.Distinct) (e : Engine) : ((r.todo e).map (·.path)).Nodup :=
  hd.sublist ((todo_sublist e r).map _)

/-- パスが互いに違えば、切るファイルはパスで分かる。 -/
theorem mem_todo_of_path (hd : r.Distinct) {f : SourceFile} (hf : f ∈ r.files)
    (h : f.path ∈ (r.todo e).map (·.path)) : f ∈ r.todo e := by
  obtain ⟨g, hg, hpath⟩ := List.mem_map.mp h
  rwa [← List.inj_on_of_nodup_map hd ((todo_sublist e r).subset hg) hf hpath]

/-- 切らないファイルの要約は、もう記録されている。 -/
theorem hash?_of_notMem_todo {f : SourceFile} (hf : f ∈ r.files) (h : f ∉ r.todo e) :
    (r.base e).hash? f.path = some (e.digest f.text) := by
  cases r with
  | index full stop schedule files session =>
    unfold todo changed at h
    rw [List.mem_filter, not_and] at h
    unfold base
    simpa using h hf
  | reindex file session => exact absurd hf h

theorem canonical_base (h : e.store.Canonical) (r : Request σ) : (r.base e).Canonical := by
  cases r with
  | index full stop schedule files session =>
    unfold base sweep
    refine Store.Canonical.dropFiles ?_ _
    split
    · exact Store.canonical_clear e.store
    · exact h
  | reindex file session => exact h

/-- 消した後のファイルは、前のままか、すっかり消えている。 -/
theorem base_cases (e : Engine) (r : Request σ) (path : String) :
    Store.Untouched path e.store (r.base e) ∨ Store.Absent path (r.base e) := by
  cases r with
  | index full stop schedule files session =>
    unfold base
    by_cases hin : path ∈ files.map (·.path)
    · cases full with
      | true => exact Or.inr ((Store.absent_clear e.store path).untouched (untouched_sweep hin))
      | false => exact Or.inl (untouched_sweep hin)
    · exact Or.inr (absent_sweep hin)
  | reindex file session => exact Or.inl (Store.Untouched.refl path e.store)

/-- 空にしないなら、渡されたファイルは消さない。 -/
theorem untouched_base (hfull : r.full = false) {f : SourceFile} (hf : f ∈ r.files) :
    Store.Untouched f.path e.store (r.base e) := by
  cases r with
  | index full stop schedule files session =>
    have hno : full = false := hfull
    subst hno
    exact untouched_sweep (List.mem_map_of_mem hf)
  | reindex file session => exact Store.Untouched.refl _ _

/-- 要約のファイルの数を、渡されたファイルの数にしたもの。 -/
def relabel (r : Request σ) (summary : IndexSummary) : IndexSummary :=
  match r with
  | index _ _ _ files _ => { summary with totalFiles := files.length }
  | reindex _ _ => summary

theorem success_relabel (r : Request σ) (summary : IndexSummary) :
    (r.relabel summary).success = summary.success := by
  cases r <;> rfl

/-- 依頼の処理は、消した後の保存先で、切るファイルに索引づけをすることである。
結果は、数えたファイルの数だけが違うことがある。 -/
theorem perform_eq (p : Provider σ) (e : Engine) (r : Request σ) :
    r.perform p e
      = { run p r.stop r.schedule { e with store := r.base e } (r.todo e)
            (hashesOf e.digest (r.todo e)) r.session with
          result := (run p r.stop r.schedule { e with store := r.base e } (r.todo e)
            (hashesOf e.digest (r.todo e)) r.session).result.map r.relabel } := by
  cases r with
  | index full stop schedule files session => rfl
  | reindex file session =>
    have hid : ∀ x : Except Error IndexSummary, x.map (reindex file session).relabel = x := by
      intro x
      cases x <;> rfl
    rw [hid]
    rfl

/-- **依頼の結末。** 失敗して保存先を触らないか、ファイルごとに成果の全部を保存する。 -/
theorem outcome (hr : e.registry.Agrees loader) (hcan : e.store.Canonical) (hd : r.Distinct) :
    Outcome loader p r.stop r.schedule { e with store := r.base e } (r.todo e) r.session
      (r.perform p e) := by
  have heq := perform_eq p e r
  have hres := congrArg IndexRun.result heq
  have heng := congrArg IndexRun.engine heq
  have hrun := run_saved (p := p) (e := { e with store := r.base e }) hr (canonical_base hcan r)
    (hd.todo e) r.stop r.schedule r.session
  cases hrun with
  | idle summary hnil hok hsuccess hstore =>
    refine .idle (r.relabel summary) hnil ?_ ((r.success_relabel summary).trans hsuccess)
      (by rw [heng]; exact hstore)
    rw [hres, hok]
    rfl
  | failed err hbad hstore =>
    refine .failed err ?_ (by rw [heng]; exact hstore)
    rw [hres, hbad]
    rfl
  | saved g summary hg hok hsuccess hsaved =>
    refine .saved g (r.relabel summary) hg ?_ ((r.success_relabel summary).trans hsuccess)
      (by rw [heng]; exact hsaved)
    rw [hres, hok]
    rfl

/-- 成功した依頼の後、渡されたファイルの要約はすべて記録されている。 -/
theorem hash?_of_success (hr : e.registry.Agrees loader) (hcan : e.store.Canonical)
    (hd : r.Distinct) {summary : IndexSummary} (hok : (r.perform p e).result = .ok summary)
    (hsuccess : summary.success = true) {f : SourceFile} (hf : f ∈ r.files) :
    (r.perform p e).engine.store.hash? f.path = some (e.digest f.text) := by
  have hend := outcome (p := p) hr hcan hd
  by_cases htodo : f ∈ r.todo e
  · exact hend.hash?_of_success hok hsuccess htodo
  · -- 切らなかったのは、要約がもう記録されているからである
    have hnot : f.path ∉ (r.todo e).map (·.path) := fun hin => htodo (mem_todo_of_path hd hf hin)
    exact (hend.untouched_of_notMem hnot).hash?_eq.trans (hash?_of_notMem_todo hf htodo)

/-- 依頼の間、設定と要約の求め方は変わらず、保管は読み込みと食い違わず、保存先の名前はパスと範囲から決まる。
パスが重なっていてもよい。 -/
theorem perform_frame (hr : e.registry.Agrees loader) (hcan : e.store.Canonical) (p : Provider σ)
    (r : Request σ) :
    ((r.perform p e).engine.settings = e.settings ∧ (r.perform p e).engine.digest = e.digest)
    ∧ (r.perform p e).engine.registry.Agrees loader
    ∧ (r.perform p e).engine.store.Canonical := by
  rw [congrArg IndexRun.engine (perform_eq p e r)]
  have hframe := run_frame (e := { e with store := r.base e }) p r.stop r.schedule (r.todo e)
    (hashesOf e.digest (r.todo e)) r.session hr (canonical_base hcan r)
  exact hframe

end Request

/-! ## 履歴 -/

/-- 依頼を順に処理した後の状態。 -/
def after (p : Provider σ) (e : Engine) (rs : List (Request σ)) : Engine :=
  rs.foldl (fun e r => (r.perform p e).engine) e

/-- 設定にある断片の切り方。 -/
def limitsOf (settings : Settings) : ChunkLimits :=
  { budget := settings.chunker.tokenBudget, window := settings.chunker.fallbackWindow }

theorem limits_eq (e : Engine) : e.limits = limitsOf e.settings := rfl

section Kept

variable {R : String → Vec → Prop} {normalizes segment : Bool} {limits : ChunkLimits}
  {loader : Loader} {digest : String → String} {f : SourceFile} {s t : Store}

/-- ファイルの行が、そのファイルを切った断片の全部で、どれにも条件 `R` を満たす空でないベクトルが
仕上げて付いていること。 -/
structure Kept (R : String → Vec → Prop) (normalizes segment : Bool) (limits : ChunkLimits)
    (loader : Loader) (f : SourceFile) (s : Store) : Prop where
  chunks : (s.rowsOf f.path).map (·.chunk) = Chunking.alone limits loader f
  vectors : ∀ r ∈ s.rowsOf f.path, ∃ v, v ≠ [] ∧ R (r.chunk.documentText segment) v
    ∧ r.vector = Generation.finish normalizes v

theorem Kept.untouched (h : Kept R normalizes segment limits loader f s)
    (hu : Store.Untouched f.path s t) : Kept R normalizes segment limits loader f t := by
  obtain ⟨hchunks, hvectors⟩ := h
  rw [← hu.rowsOf_eq] at hchunks hvectors
  exact ⟨hchunks, hvectors⟩

/-- 埋め込めないもののないファイルの新しい姿には、断片の全部がある。 -/
theorem Replaced.kept {g : Generation} (h : Replaced limits loader digest f g t)
    (hnone : failedOf g.failed f.path = [])
    (hcarries : ∀ c ∈ g.embedded, Generation.Carries R normalizes segment g.dimensions c) :
    Kept R normalizes segment limits loader f t where
  chunks := by
    have hall := h.accounted.eq_left (by rw [hnone]; rfl)
    have hfst := congrArg (List.map Prod.fst) h.rows
    rw [List.map_map, List.map_map] at hfst
    exact hfst.trans hall
  vectors := by
    intro r hr
    have hm : r.content ∈ (g.embedded.filter (inPath f.path)).map Chunk.content :=
      h.rows ▸ List.mem_map_of_mem hr
    obtain ⟨c, hc, heq⟩ := List.mem_map.mp hm
    obtain ⟨hchunk, hvector⟩ := Prod.mk.inj heq
    obtain ⟨v, hne, -, hR, hv⟩ := hcarries c (List.mem_filter.mp hc).1
    refine ⟨v, hne, ?_, ?_⟩
    · rw [← hchunk]
      exact hR
    · rw [← hvector, hv, Option.getD_some]

end Kept

/-- **不変条件。** 要約の記録されたファイルについては、その要約の本文が渡されたことがあり、
行はその本文を切った断片の全部である。 -/
structure Faithful (R : String → Vec → Prop) (p : Provider σ) (settings : Settings)
    (loader : Loader) (digest : String → String) (given : List SourceFile) (e : Engine) : Prop where
  settings_eq : e.settings = settings
  digest_eq : e.digest = digest
  agrees : e.registry.Agrees loader
  canonical : e.store.Canonical
  recorded : ∀ path h, e.store.hash? path = some h → ∃ f ∈ given, f.path = path
    ∧ digest f.text = h
    ∧ Kept R p.normalizes settings.embedding.segmentIdentifiers (limitsOf settings) loader f e.store

section History

variable {R : String → Vec → Prop} {p : Provider σ} {settings : Settings} {loader : Loader}
  {digest : String → String} {given : List SourceFile} {e : Engine}

theorem faithful_new (R : String → Vec → Prop) (p : Provider σ) (settings : Settings)
    (loader : Loader) (digest : String → String) (lexical : Bool) :
    Faithful R p settings loader digest [] (new settings loader digest (.empty lexical)) where
  settings_eq := rfl
  digest_eq := rfl
  agrees := Registry.agrees_ofLoader loader
  canonical := by
    intro r hr
    cases hr
  recorded := by
    intro path h hh
    cases hh

/-- 前のままのファイルの行は、前に渡されたファイルを切った断片の全部である。 -/
theorem Faithful.recorded_of_untouched (he : Faithful R p settings loader digest given e)
    {r : Request σ} {t : Store} {path h : String} (hu : Store.Untouched path (r.base e) t)
    (hh : t.hash? path = some h) :
    ∃ f ∈ given, f.path = path ∧ digest f.text = h
      ∧ Kept R p.normalizes settings.embedding.segmentIdentifiers (limitsOf settings) loader f
        t := by
  rcases Request.base_cases e r path with hbase | hgone
  · have hall := hbase.trans hu
    rw [hall.hash?_eq] at hh
    obtain ⟨f, hf, rfl, hhex, hkept⟩ := he.recorded path h hh
    exact ⟨f, hf, rfl, hhex, hkept.untouched hall⟩
  · rw [(hgone.untouched hu).hash?_eq] at hh
    cases hh

/-- 新しい姿に替わって要約が記録されたファイルの行は、そのファイルを切った断片の全部である。 -/
theorem Faithful.kept_of_replaced (hp : p.Answers R)
    (he : Faithful R p settings loader digest given e) {r : Request σ} {g : Generation}
    {f : SourceFile} {t : Store} {h : String}
    (hg : r.generated p e = .ok g) (hnew : Replaced e.limits loader e.digest f g t)
    (hh : t.hash? f.path = some h) :
    digest f.text = h
    ∧ Kept R p.normalizes settings.embedding.segmentIdentifiers (limitsOf settings) loader f t := by
  have hhash := hnew.hash
  rw [hh, he.digest_eq] at hhash
  split at hhash
  · next hnone =>
    obtain ⟨n, -, hacc, -⟩ := generation_accounts he.agrees hp hg
    have hkept := hnew.kept hnone hacc.carries
    rw [limits_eq, he.settings_eq] at hkept
    exact ⟨(Option.some.inj hhash).symm, hkept⟩
  · cases hhash

/-- **一つの依頼は不変条件を保つ。** -/
theorem Faithful.perform (hp : p.Answers R) (he : Faithful R p settings loader digest given e)
    {r : Request σ} (hd : r.Distinct) :
    Faithful R p settings loader digest (given ++ r.files) (r.perform p e).engine := by
  obtain ⟨⟨hsettings, hdigest⟩, hagrees, hcan⟩ := r.perform_frame he.agrees he.canonical p
  have hend := Request.outcome (p := p) he.agrees he.canonical hd
  refine ⟨hsettings.trans he.settings_eq, hdigest.trans he.digest_eq, hagrees, hcan, ?_⟩
  intro path h hh
  -- 前のままなら前に渡されたファイルの、新しい姿ならこの依頼のファイルの断片である
  have hold : Store.Untouched path (r.base e) (r.perform p e).engine.store →
      ∃ f ∈ given ++ r.files, f.path = path ∧ digest f.text = h
        ∧ Kept R p.normalizes settings.embedding.segmentIdentifiers (limitsOf settings) loader f
          (r.perform p e).engine.store := by
    intro hu
    obtain ⟨f, hf, hrest⟩ := he.recorded_of_untouched hu hh
    exact ⟨f, List.mem_append_left _ hf, hrest⟩
  by_cases hin : path ∈ (r.todo e).map (·.path)
  · obtain ⟨f, hf, rfl⟩ := List.mem_map.mp hin
    rcases hend.untouched_or_replaced hf with hu | ⟨g, hg, hnew⟩
    · exact hold hu
    · have hmem := List.mem_append_right given ((Request.todo_sublist e r).subset hf)
      exact ⟨f, hmem, rfl, he.kept_of_replaced hp hg hnew hh⟩
  · exact hold (hend.untouched_of_notMem hin)

/-- 依頼の列を処理しても、不変条件は保たれる。 -/
theorem Faithful.after (hp : p.Answers R) : ∀ {rs : List (Request σ)} {given : List SourceFile}
    {e : Engine}, Faithful R p settings loader digest given e → (∀ r ∈ rs, r.Distinct) →
    Faithful R p settings loader digest (given ++ rs.flatMap Request.files) (after p e rs)
  | [], given, e, he, _ => by
    rw [List.flatMap_nil, List.append_nil]
    exact he
  | r :: rs, given, e, he, hd => by
    have hnext := he.perform hp (hd r List.mem_cons_self)
    have hall := Faithful.after hp hnext fun r' hr' => hd r' (List.mem_cons_of_mem r hr')
    rw [List.append_assoc, ← List.flatMap_cons] at hall
    exact hall

/--
**記録した要約は嘘をつかない。**

空の索引から依頼をどう処理しても、提供元が何を答えても、要約が記録されているなら、その要約の本文の
ファイルがどれかの依頼で渡されていて、行はそのファイルを切った断片の全部であり、どれにも空でない
ベクトルがある。
-/
theorem recorded_hash_faithful (p : Provider σ) (settings : Settings) (loader : Loader)
    (digest : String → String) (lexical : Bool) (rs : List (Request σ))
    (hd : ∀ r ∈ rs, r.Distinct) (path hash : String)
    (hh : (after p (new settings loader digest (.empty lexical)) rs).store.hash? path = some hash) :
    ∃ r ∈ rs, ∃ f ∈ r.files, f.path = path ∧ digest f.text = hash
      ∧ ((after p (new settings loader digest (.empty lexical)) rs).store.rowsOf path).map (·.chunk)
        = Chunking.alone (limitsOf settings) loader f
      ∧ ∀ row ∈ (after p (new settings loader digest (.empty lexical)) rs).store.rowsOf path,
        row.vector ≠ [] := by
  have hfaithful := (faithful_new (fun _ _ => True) p settings loader digest lexical).after
    p.answers_anything hd
  obtain ⟨f, hf, rfl, hhex, hkept⟩ := hfaithful.recorded path hash hh
  rw [List.nil_append] at hf
  obtain ⟨r, hr, hfr⟩ := List.mem_flatMap.mp hf
  refine ⟨r, hr, f, hfr, rfl, hhex, hkept.chunks, ?_⟩
  intro row hrow
  obtain ⟨v, hne, -, hv⟩ := hkept.vectors row hrow
  rw [hv, ← List.length_pos_iff, Generation.length_finish, List.length_pos_iff]
  exact hne

end History

/-! ### 途中で欠けた索引づけ -/

/-- 具合が悪いと、束の最初の文書にしか答えない提供元。具合は相手の状態が表す。 -/
def flaky : Provider Bool where
  name := "flaky"
  model := "constant"
  normalizes := false
  connected := fun s => (true, s)
  modelAvailable := fun s => (true, s)
  embed := fun _ _ s => (.ok [1.0], s)
  embedBatch := fun ts s => (.ok ((if s.peer then ts else ts.take 1).map fun _ => [1.0]), s)

/-- 既定の設定で、何も索引づけしていない状態。 -/
def fresh : Engine := new {} .builtin Digest.hex (.empty true)

/-- 一行だけの二つのファイル。 -/
def notes : List SourceFile :=
  [ { path := "a.txt", text := "x", language := .unknown },
    { path := "b.txt", text := "y", language := .unknown } ]

/-- 具合の悪い提供元で二つのファイルに索引づけする依頼。 -/
def partialRequest : Request Bool := .index false (fun _ => false) [] notes { peer := false }

/-- 一つめのファイルだけが記録され、その行は断片の全部である。 -/
theorem recorded_hash_faithful_partial :
    (after flaky fresh [partialRequest]).store.hash? "b.txt" = none
    ∧ ∃ hash, (after flaky fresh [partialRequest]).store.hash? "a.txt" = some hash
      ∧ ∃ r ∈ [partialRequest], ∃ f ∈ r.files, f.path = "a.txt" ∧ Digest.hex f.text = hash
        ∧ ((after flaky fresh [partialRequest]).store.rowsOf "a.txt").map (·.chunk)
          = Chunking.alone (limitsOf {}) .builtin f
        ∧ ∀ row ∈ (after flaky fresh [partialRequest]).store.rowsOf "a.txt", row.vector ≠ [] := by
  refine ⟨by decide +kernel, ?_⟩
  obtain ⟨hash, hh⟩ : ∃ hash,
      (after flaky fresh [partialRequest]).store.hash? "a.txt" = some hash :=
    Option.isSome_iff_exists.mp (by decide +kernel)
  refine ⟨hash, hh, recorded_hash_faithful flaky {} .builtin Digest.hex true [partialRequest] ?_
    "a.txt" hash hh⟩
  intro r hr
  rw [List.mem_singleton.mp hr]
  show (notes.map (·.path)).Nodup
  decide

end Engine

end CodeSearch
