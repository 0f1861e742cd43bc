import CodeSearch.Proofs.Engine.History

/-!
# 積み重ねた索引づけは作り直しと同じ

空の索引から索引づけをどれだけ重ねても、途中の失敗・中止・欠けた断片があっても、最後の索引づけが
成功すれば、中身は渡されたファイルだけから決まる。だから空の索引から作り直したものと同じになる。

内容の変わらないファイルを飛ばせるのは、記録した要約が嘘をつかないから（`Faithful`）である。
ファイルを切った結果が要約から決まるために、渡されたファイルが食い違わないこと（`Consistent`）を
仮定する。

* `Rebuilt` — 渡されたファイルだけから決まる中身
* `Rebuilt.unique` — その中身は一つに決まる
* `Faithful.rebuilt` — 成功した索引づけの後の中身は `Rebuilt` である
-/

namespace CodeSearch

namespace Engine

/-! ## 渡されたファイル -/

/-- 渡されたファイルが食い違わないこと。 -/
structure Consistent (digest : String → String) (given : List SourceFile) : Prop where
  /-- 同じパスの言語はいつも同じである。 -/
  language_eq : ∀ f ∈ given, ∀ g ∈ given, f.path = g.path → f.language = g.language
  /-- 構文解析の結果は、言語と本文で決まる。 -/
  trees_eq : ∀ f ∈ given, ∀ g ∈ given, f.language = g.language → f.text = g.text →
    f.trees = g.trees
  /-- 本文の要約は衝突しない。 -/
  hex_inj : ∀ f ∈ given, ∀ g ∈ given, digest f.text = digest g.text → f.text = g.text

theorem Consistent.mono {digest : String → String} {given given' : List SourceFile}
    (h : Consistent digest given) (hsub : given' ⊆ given) : Consistent digest given' where
  language_eq := fun f hf g hg => h.language_eq f (hsub hf) g (hsub hg)
  trees_eq := fun f hf g hg => h.trees_eq f (hsub hf) g (hsub hg)
  hex_inj := fun f hf g hg => h.hex_inj f (hsub hf) g (hsub hg)

/-- パスと要約が同じなら、同じファイルである。 -/
theorem Consistent.eq {digest : String → String} {given : List SourceFile}
    (h : Consistent digest given) {f g : SourceFile}
    (hf : f ∈ given) (hg : g ∈ given) (hpath : f.path = g.path)
    (hhex : digest f.text = digest g.text) : f = g := by
  have htext := h.hex_inj f hf g hg hhex
  have hlanguage := h.language_eq f hf g hg hpath
  have htrees := h.trees_eq f hf g hg hlanguage htext
  cases f
  cases g
  simp_all

/-! ## 作り直した中身 -/

/-- 渡されたファイルだけから決まる中身。`embed` は文書のベクトルである。 -/
structure Rebuilt (embed : String → Vec) (normalizes : Bool) (settings : Settings)
    (loader : Loader) (digest : String → String) (files : List SourceFile) (s : Store) : Prop where
  /-- ファイルの行は、切った断片の全部にベクトルを付けたものである。 -/
  rows : ∀ f ∈ files, (s.rowsOf f.path).map Row.content
    = (Chunking.alone (limitsOf settings) loader f).map fun c =>
      (c, Generation.finish normalizes
        (embed (c.documentText settings.embedding.segmentIdentifiers)))
  hash : ∀ f ∈ files, s.hash? f.path = some (digest f.text)
  /-- ほかのファイルは行も記録もない。 -/
  others : ∀ path, path ∉ files.map (·.path) → Store.Absent path s

/-- 行の番号を除いて、中身が同じであること。 -/
def SameContents (s t : Store) : Prop :=
  ∀ path, (s.rowsOf path).map Row.content = (t.rowsOf path).map Row.content
    ∧ s.hash? path = t.hash? path

/-- 中身は渡されたファイルだけから決まる。 -/
theorem Rebuilt.unique {embed : String → Vec} {normalizes : Bool} {settings : Settings}
    {loader : Loader} {digest : String → String} {files : List SourceFile} {s t : Store}
    (hs : Rebuilt embed normalizes settings loader digest files s)
    (ht : Rebuilt embed normalizes settings loader digest files t) : SameContents s t := by
  intro path
  by_cases hin : path ∈ files.map (·.path)
  · obtain ⟨f, hf, rfl⟩ := List.mem_map.mp hin
    exact ⟨(hs.rows f hf).trans (ht.rows f hf).symm, (hs.hash f hf).trans (ht.hash f hf).symm⟩
  · have hs' := hs.others path hin
    have ht' := ht.others path hin
    rw [hs'.rowsOf_eq, ht'.rowsOf_eq, hs'.hash?_eq, ht'.hash?_eq]
    exact ⟨rfl, rfl⟩

section

variable {σ : Type} {p : Provider σ} {embed : String → Vec} {settings : Settings}
  {loader : Loader} {digest : String → String} {given : List SourceFile} {e : Engine}

/-- ベクトルが文書で決まるなら、行の中身はファイルで決まる。 -/
theorem Kept.content_eq {normalizes segment : Bool} {limits : ChunkLimits} {f : SourceFile}
    {s : Store} (h : Kept (fun t v => v = embed t) normalizes segment limits loader f s) :
    (s.rowsOf f.path).map Row.content = (Chunking.alone limits loader f).map fun c =>
      (c, Generation.finish normalizes (embed (c.documentText segment))) := by
  have hrow : ∀ r ∈ s.rowsOf f.path, r.content
      = (r.chunk, Generation.finish normalizes (embed (r.chunk.documentText segment))) := by
    intro r hr
    obtain ⟨v, -, rfl, hv⟩ := h.vectors r hr
    unfold Row.content
    rw [hv]
  rw [List.map_congr_left hrow, ← h.chunks, List.map_map]
  rfl

/-- 見つかったファイルに索引を合わせた後、ほかのファイルは行も記録もない。 -/
theorem absent_index (hagrees : e.registry.Agrees loader) (hcan : e.store.Canonical)
    {full : Bool} {stop : Nat → Bool} {schedule : List Nat} {files : List SourceFile}
    {s : Session σ} (hn : (files.map (·.path)).Nodup) {path : String}
    (hnot : path ∉ files.map (·.path)) :
    Store.Absent path (index p stop schedule full e files s).engine.store := by
  have hbase : Store.Absent path ((Request.index full stop schedule files s).base e) :=
    absent_sweep hnot
  have hend := Request.outcome (p := p) (r := .index full stop schedule files s) hagrees hcan hn
  refine hbase.untouched (hend.untouched_of_notMem fun hin => hnot ?_)
  obtain ⟨f, hf, rfl⟩ := List.mem_map.mp hin
  exact List.mem_map_of_mem ((Request.todo_sublist e (.index full stop schedule files s)).subset hf)

/-- 不変条件があれば、成功した索引づけの後の中身は作り直したものである。 -/
theorem Faithful.rebuilt (he : Faithful (fun t v => v = embed t) p settings loader digest given e)
    (hp : p.Answers fun t v => v = embed t) {full : Bool} {stop : Nat → Bool}
    {schedule : List Nat} {files : List SourceFile} {s : Session σ}
    (hn : (files.map (·.path)).Nodup) (hc : Consistent digest (given ++ files))
    {summary : IndexSummary}
    (hok : (index p stop schedule full e files s).result = .ok summary)
    (hsuccess : summary.success = true) :
    Rebuilt embed p.normalizes settings loader digest files
      (index p stop schedule full e files s).engine.store := by
  have hnext := he.perform (r := .index full stop schedule files s) hp hn
  have hhash : ∀ f ∈ files,
      (index p stop schedule full e files s).engine.store.hash? f.path = some (digest f.text) := by
    intro f hf
    rw [← he.digest_eq]
    exact Request.hash?_of_success (r := .index full stop schedule files s) he.agrees he.canonical
      hn hok hsuccess hf
  refine ⟨?_, hhash, fun path hnot => absent_index he.agrees he.canonical hn hnot⟩
  intro f hf
  -- 記録が指すファイルは、パスと要約が同じなので、いま渡されたファイルそのものである
  obtain ⟨f', hf', hpath, hhex, hkept⟩ := hnext.recorded f.path _ (hhash f hf)
  have hsame : f' = f := hc.eq hf' (List.mem_append_right given hf) hpath hhex
  rw [hsame] at hkept
  exact hkept.content_eq

/--
**積み重ねた索引づけは作り直しと同じである。**

空の索引から依頼をどう重ねてきても、見つかったファイルに索引を合わせて成功すれば、行と記録は
そのファイルを切った断片の全部にベクトル `embed` を付けたものだけになる。空の索引から作り直して
成功したときとも、行の番号を除いて同じである。
-/
theorem index_rebuilds (p : Provider σ) (embed : String → Vec)
    (hp : p.Answers fun t v => v = embed t) (settings : Settings) (loader : Loader)
    (digest : String → String) (lexical : Bool) (rs : List (Request σ))
    (hd : ∀ r ∈ rs, r.Distinct) (full : Bool) (stop : Nat → Bool) (schedule : List Nat)
    (files : List SourceFile) (s : Session σ) (hn : (files.map (·.path)).Nodup)
    (hc : Consistent digest (rs.flatMap Request.files ++ files)) (summary : IndexSummary)
    (hok : (index p stop schedule full (after p (new settings loader digest (.empty lexical)) rs)
      files s).result = .ok summary)
    (hsuccess : summary.success = true) :
    Rebuilt embed p.normalizes settings loader digest files
      (index p stop schedule full (after p (new settings loader digest (.empty lexical)) rs) files
        s).engine.store
    ∧ ∀ lexical' stop' schedule' s' rebuilt,
      (index p stop' schedule' true (new settings loader digest (.empty lexical')) files s').result
        = .ok rebuilt →
      rebuilt.success = true →
      SameContents
        (index p stop schedule full (after p (new settings loader digest (.empty lexical)) rs) files
          s).engine.store
        (index p stop' schedule' true (new settings loader digest (.empty lexical')) files
          s').engine.store := by
  have hafter := (faithful_new (fun t v => v = embed t) p settings loader digest lexical).after hp
    hd
  rw [List.nil_append] at hafter
  have hbuilt := hafter.rebuilt hp hn hc hok hsuccess
  refine ⟨hbuilt, ?_⟩
  intro lexical' stop' schedule' s' rebuilt hok' hsuccess'
  have hfresh := faithful_new (fun t v => v = embed t) p settings loader digest lexical'
  have hsub : Consistent digest ([] ++ files) := hc.mono (List.subset_append_right _ files)
  exact hbuilt.unique (hfresh.rebuilt hp hn hsub hok' hsuccess')

end

/-! ### 欠けた索引づけのやり直し -/

theorem flaky_answers : flaky.Answers fun _ v => v = [1.0] where
  embed := by
    intro t s v s' h
    cases h
    rfl
  batch := by
    intro ts s vs s' h i t v _ hv
    cases h
    rw [List.getElem?_map] at hv
    obtain ⟨_, -, rfl⟩ := Option.map_eq_some_iff.mp hv
    rfl

theorem consistent_notes : Consistent Digest.hex (notes ++ notes) := by
  have hxy : Digest.hex "x" ≠ Digest.hex "y" := by decide +kernel
  have hmem : ∀ f ∈ notes ++ notes,
      f = { path := "a.txt", text := "x", language := .unknown }
      ∨ f = { path := "b.txt", text := "y", language := .unknown } := by
    intro f hf
    rcases List.mem_append.mp hf with hf | hf <;> simpa [notes] using hf
  constructor
  · intro f hf g hg _
    rcases hmem f hf with rfl | rfl <;> rcases hmem g hg with rfl | rfl <;> rfl
  · intro f hf g hg _ _
    rcases hmem f hf with rfl | rfl <;> rcases hmem g hg with rfl | rfl <;> rfl
  · intro f hf g hg hhex
    rcases hmem f hf with rfl | rfl <;> rcases hmem g hg with rfl | rfl
    · rfl
    · exact absurd hhex hxy
    · exact absurd hhex.symm hxy
    · rfl

/-- 一つめのファイルだけが済んだ後でやり直せば、二つとも揃う。 -/
theorem index_rebuilds_partial :
    ∃ summary, (index flaky (fun _ => false) [] false
        (after flaky fresh [partialRequest]) notes
        { peer := true }).result = .ok summary
      ∧ summary.totalChunks = 1 ∧ summary.success = true
      ∧ Rebuilt (fun _ => [1.0]) false {} .builtin Digest.hex notes
        (index flaky (fun _ => false) [] false
          (after flaky fresh [partialRequest]) notes
          { peer := true }).engine.store := by
  have hres : (index flaky (fun _ => false) [] false
      (after flaky fresh [partialRequest]) notes
      { peer := true }).result.toOption.map (fun s => (s.totalChunks, s.success))
      = some (1, true) := by
    decide +kernel
  cases hrun : (index flaky (fun _ => false) [] false
      (after flaky fresh [partialRequest]) notes
      { peer := true }).result with
  | error err =>
    rw [hrun] at hres
    cases hres
  | ok summary =>
    rw [hrun] at hres
    obtain ⟨htotal, hsuccess⟩ := Prod.mk.inj (Option.some.inj hres)
    have hn : (notes.map (·.path)).Nodup := by decide
    refine ⟨summary, rfl, htotal, hsuccess, ?_⟩
    refine (index_rebuilds flaky (fun _ => [1.0]) flaky_answers {} .builtin Digest.hex true
      [partialRequest] ?_ false (fun _ => false) [] notes { peer := true } hn ?_ summary hrun
      hsuccess).1
    · intro r hr
      rw [List.mem_singleton.mp hr]
      exact hn
    · show Consistent Digest.hex (notes ++ notes)
      exact consistent_notes

end Engine

end CodeSearch
