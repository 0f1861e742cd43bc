import CodeSearch.Proofs.Chunking.Pool
import CodeSearch.Proofs.Engine.Operations

/-!
# 一回に切った断片は、名前で見分けられる

パスの違うファイルの断片は、どの切り方でも名前が互いに違う。保存先は名前で行を引いて入れ替えるので、
名前が重ならないことは、保存しても何も上書きされないということである。

* `Store.Appends` — 行はすべて残り、断片の数だけ新しい行が後ろに付く
* `appends_insert`、`appends_replaceFile` — 名前が重ならない断片の保存は、行を足すだけである
* `chunks_named_apart` — 一回に切った断片は名前が重ならず、保存しても何も上書きしない
-/

namespace CodeSearch

/-! ## 上書きしない保存 -/

namespace Store

/-- `rows` がそのまま残り、その後ろに、断片のうちベクトルのあるものが一つずつ新しい行として
付いていること。 -/
def Appends (rows : List Row) (chunks : List Chunk) (t : Store) : Prop :=
  ∃ added, t.rows = rows ++ added
    ∧ added.map Row.content = (storable chunks).map fun i => (i.1.stored, i.2)

variable {s t : Store} {chunks : List Chunk} {n : Nat}

/-- 名前が、どの行とも互いにも違う断片の保存は、行を足すだけである。 -/
theorem appends_insert (hfresh : ∀ c ∈ chunks, ∀ r ∈ s.rows, r.chunk.id ≠ c.id)
    (hids : (chunks.map (·.id)).Nodup) (h : s.insert chunks = .ok (n, t)) :
    Appends s.rows chunks t := by
  unfold insert at h
  simp only [] at h
  cases hu : s.prepareFor (storable chunks) with
  | error e =>
    rw [hu] at h
    cases h
  | ok u =>
    rw [hu] at h
    cases h
    obtain ⟨hrows, -, -⟩ := prepareFor_frame hu
    have hfresh' : ∀ i ∈ storable chunks, ∀ r ∈ u.rows, r.chunk.id ≠ i.1.id := by
      intro i hi r hr
      rw [hrows] at hr
      exact hfresh i.1 (mem_storable hi).1 r hr
    obtain ⟨added, hadded, hcontent, -⟩ :=
      putAll_of_fresh (storable chunks) u hfresh' (hids.sublist (storable_ids_sublist chunks))
    rw [hrows] at hadded
    exact ⟨added, hadded, hcontent⟩

/-- ファイルの入れ替えは、古い行を消した後は、行を足すだけである。 -/
theorem appends_replaceFile {path : String} (hs : s.Canonical)
    (hpath : ∀ c ∈ chunks, c.path = path) (hcan : ∀ c ∈ chunks, c.Canonical)
    (hids : (chunks.map (·.id)).Nodup) (h : s.replaceFile path chunks = .ok (n, t)) :
    Appends (s.dropFile path).rows chunks t := by
  obtain ⟨added, hadded, hcontent, -⟩ := rows_replaceFile hs hpath hcan hids h
  exact ⟨added, hadded, hcontent⟩

end Store

namespace Engine

variable {limits : ChunkLimits} {loader : Loader} {files : List SourceFile}

/-! ## ベクトルを付けた断片 -/

/-- 切った断片のいくつかに、好きな順にベクトルを付けたもの。 -/
def Vectored (cut stored : List Chunk) : Prop := (stored.map Chunk.bare).Subperm cut

/-- 埋め込みの成果は、切った断片のいくつかにベクトルを付けたものである。 -/
theorem vectored_embedded {g : Generation} {R : String → Vec → Prop} {normalizes segment : Bool}
    {n : Nat} (h : g.Accounts R normalizes segment ((pieces limits loader files).take n)) :
    Vectored (pieces limits loader files) g.embedded := by
  have hsub := h.interleaved.sublist_left
  rw [map_bare_take_pieces] at hsub
  exact (hsub.trans (List.take_sublist n _)).subperm

theorem Vectored.ids_nodup {cut stored : List Chunk} (h : Vectored cut stored)
    (hids : (cut.map (·.id)).Nodup) : (stored.map (·.id)).Nodup := by
  obtain ⟨part, hperm, hsub⟩ := h
  have hpart : (part.map (·.id)).Nodup := hids.sublist (hsub.map _)
  have hbare := (hperm.map (·.id)).nodup_iff.mp hpart
  rwa [List.map_map] at hbare

theorem Vectored.bare_mem {cut stored : List Chunk} (h : Vectored cut stored) :
    ∀ c ∈ stored, c.bare ∈ cut :=
  fun _ hc => h.subset (List.mem_map_of_mem hc)

theorem Vectored.canonical {stored : List Chunk}
    (h : Vectored (pieces limits loader files) stored) : ∀ c ∈ stored, c.Canonical := by
  intro c hc
  have hbare : c.bare.Canonical := canonical_of_mem_pieces (h.bare_mem c hc)
  exact hbare

/-- 行のないファイルの断片は、どの行とも名前が違う。 -/
theorem Vectored.fresh {stored : List Chunk} {s : Store}
    (h : Vectored (pieces limits loader files) stored) (hs : s.Canonical)
    (hnone : ∀ f ∈ files, s.rowsOf f.path = []) :
    ∀ c ∈ stored, ∀ r ∈ s.rows, r.chunk.id ≠ c.id := by
  intro c hc r hr heq
  obtain ⟨f, hf, hcf⟩ := List.mem_flatMap.mp (h.bare_mem c hc)
  have hbare : c.bare.path = f.path := path_of_mem_alone hcf
  have hpath : r.path = f.path := ((hs r hr).path_eq (h.canonical c hc) heq).trans hbare
  have hin : r ∈ s.rowsOf f.path := List.mem_filter.mpr ⟨hr, by simpa [Store.inFile] using hpath⟩
  rw [hnone f hf] at hin
  cases hin

end Engine

namespace Chunking

open Engine Registry

/-- 一回に切った断片。 -/
def produced (limits : ChunkLimits) (maxWorkers : Nat) (schedule : List Nat) (registry : Registry)
    (files : List SourceFile) : List Chunk :=
  (chunkFiles limits maxWorkers schedule registry files).1.flatMap (·.chunks)

theorem produced_eq_pieces {loader : Loader} {r : Registry} {limits : ChunkLimits}
    {files : List SourceFile} (hr : r.Agrees loader) (maxWorkers : Nat) (schedule : List Nat)
    (hdone : workerCount maxWorkers files.length = 1
      ∨ ((team maxWorkers r files).run limits files schedule).finished = true) :
    produced limits maxWorkers schedule r files = pieces limits loader files := by
  unfold produced pieces
  rw [List.flatMap_def, List.flatMap_def,
    map_chunks_of_settled (chunkFiles_settled hr maxWorkers schedule hdone)]

/--
**一回に切った断片は名前が重ならず、保存しても何も上書きしない。**

名前はパスと行の範囲を決める。だから、パスの互いに違うファイルを、一つずつどんな保管とどんな設定で
切っても、まとめて何人で切っても、断片の名前は互いに違う。

埋め込みの成果は、そのいくつかにベクトルを付けたものである。それを、パスから名前を付けた行だけの
保存先に書くときは、どの行も上書きせず、断片の数だけ新しい行が付く。ファイルを入れ替えるときに
消えるのは、そのファイルの古い行だけである。
-/
theorem chunks_named_apart {loader : Loader} {r : Registry} (hr : Reachable loader r)
    (files : List SourceFile) (hn : (files.map (·.path)).Nodup) :
    (∀ (p q : String) (first last first' last' : Nat),
      chunkId p first last = chunkId q first' last' → p = q ∧ first = first' ∧ last = last')
    ∧ (∀ (limits : SourceFile → ChunkLimits) (registry : SourceFile → Registry),
      ((files.flatMap fun f => (chunk (limits f) (registry f) f).1.chunks).map (·.id)).Nodup)
    ∧ ∀ (limits : ChunkLimits) (maxWorkers : Nat) (schedule : List Nat),
      (workerCount maxWorkers files.length = 1
        ∨ ((team maxWorkers r files).run limits files schedule).finished = true) →
      ((produced limits maxWorkers schedule r files).map (·.id)).Nodup
      ∧ (∀ {σ : Type} (p : Provider σ) (o : EmbeddingSettings) (stop : Nat → Bool)
          (size : BatchSize) (s : Session σ) (g : Generation),
        (Embedding.generate p o stop size (produced limits maxWorkers schedule r files) s).result
          = .ok g → Vectored (produced limits maxWorkers schedule r files) g.embedded)
      ∧ ∀ stored, Vectored (produced limits maxWorkers schedule r files) stored →
        ∀ s : Store, s.Canonical →
          (∀ n t, (∀ f ∈ files, s.rowsOf f.path = []) → s.insert stored = .ok (n, t) →
            Store.Appends s.rows stored t)
          ∧ ∀ path n t, s.replaceFile path (stored.filter (inPath path)) = .ok (n, t) →
            Store.Appends (s.dropFile path).rows (stored.filter (inPath path)) t := by
  refine ⟨fun p q first last first' last' => chunkId_inj, fun limits registry => ?_, ?_⟩
  · exact LinePartition.ids_nodup_flatMap hn fun f _ => linePartition_chunk _ _ f
  intro limits maxWorkers schedule hdone
  have hpieces : ((pieces limits loader files).map (·.id)).Nodup := ids_nodup_pieces hn
  rw [produced_eq_pieces hr.agrees maxWorkers schedule hdone]
  refine ⟨hpieces, ?_, fun stored hstored s hs => ?_⟩
  · intro σ p o stop size s g hg
    obtain ⟨n, -, haccounts, -⟩ := Embedding.generate_accounts p.answers_anything hg
    exact vectored_embedded haccounts
  have hids := hstored.ids_nodup hpieces
  refine ⟨fun n t hnone => Store.appends_insert (hstored.fresh hs hnone) hids, fun path n t => ?_⟩
  refine Store.appends_replaceFile hs ?_ ?_ (hids.sublist (List.filter_sublist.map _))
  · intro c hc
    simpa [inPath] using (List.mem_filter.mp hc).2
  · exact fun c hc => hstored.canonical c (List.mem_filter.mp hc).1

/-- 片方のパスが、もう片方の断片の名前になっている二つのファイル。 -/
def lookalikes : List SourceFile :=
  [twoDeclarations, { path := "src/a.rs:1-2", text := "plain\n", language := .unknown }]

/-- パスに区切りのあるファイルの断片がもう入っている保存先。 -/
def shelf : Store :=
  (Store.empty true).put (.ofSpan "src/a.rs:3" 3 3 "fn g() {}" .function "rust" 0) [0.5, 0.5]

/-- パスに区切りがあっても、断片の名前は重ならず、三つとも新しい行になる。 -/
theorem lookalikes_named_apart :
    let cut := produced {} 1 [] (.ofLoader .builtin) lookalikes
    let stored := cut.map fun c => { c with vector := some [1.0, 0.0] }
    cut.map (·.id) = ["src/a.rs:1-2", "src/a.rs:3-3", "src/a.rs:1-2:1-1"]
    ∧ ∃ t, shelf.insert stored = .ok (3, t) ∧ Store.Appends shelf.rows stored t := by
  intro cut stored
  have hr : Reachable .builtin (.ofLoader .builtin) := .fresh
  obtain ⟨-, -, happly⟩ := chunks_named_apart hr lookalikes (by decide)
  have hstored : Vectored cut stored := by
    have hcut : cut = pieces {} .builtin lookalikes :=
      produced_eq_pieces hr.agrees 1 [] (Or.inl rfl)
    have hbare : ∀ c ∈ cut, ({ c with vector := some [1.0, 0.0] } : Chunk).bare = id c := by
      intro c hc
      rw [hcut] at hc
      exact bare_of_mem_pieces hc
    have hmap : stored.map Chunk.bare = cut := by
      rw [List.map_map]
      exact (List.map_congr_left hbare).trans (List.map_id cut)
    unfold Vectored
    rw [hmap]
  have hshelf : shelf.Canonical := by
    show ∀ r ∈ shelf.rows, r.name = chunkId r.path r.firstLine r.lastLine
    decide +kernel
  refine ⟨by decide +kernel, ?_⟩
  have hread : (shelf.insert stored).toOption.map Prod.fst = some 3 := by decide +kernel
  obtain ⟨⟨n, t⟩, ht, rfl⟩ := exists_ok_of_toOption hread
  obtain ⟨hinsert, -⟩ := (happly {} 1 [] (Or.inl rfl)).2.2 stored hstored shelf hshelf
  exact ⟨t, ht, hinsert 3 t (by decide +kernel) ht⟩

end Chunking

end CodeSearch
