import CodeSearch.Proofs.Sorting
import CodeSearch.Proofs.Store.Representation

/-!
# ファイルの入れ替えは、そのファイルだけを入れ替える

入れ替えは、名前の同じ行があれば上書きする。名前はパスと行の範囲から決まるので、別のファイルの行を
上書きすることはない。保存した断片は列から元に戻るので、読み出しは渡したとおりになる。

* `chunksOf_perm` — 読み出すのは、ファイルの行の断片のすべてで、行の順に並ぶ
* `replaceFile_swaps` — 入れ替えと削除が変えるもの、変えないもの
-/

namespace CodeSearch.Store

variable {s : Store} {path : String} {chunks : List Chunk}

/-! ## 読み出し -/

theorem orders_firstLine (cs : List Chunk) :
    Orders (fun a b : Chunk => decide (a.firstLine < b.firstLine)) cs where
  asymm := by
    intro a _ b _ h
    simp only [decide_eq_true_eq, decide_eq_false_iff_not] at h ⊢
    exact Nat.lt_asymm h
  trans := by
    intro a _ b _ c _ hab hbc
    simp only [decide_eq_false_iff_not, Nat.not_lt] at hab hbc ⊢
    exact Nat.le_trans hbc hab

theorem chunksOf_perm (s : Store) (path : String) :
    (s.chunksOf path).Perm ((s.rowsOf path).map (·.chunk)) :=
  stableSort_perm _ _

theorem pairwise_chunksOf (s : Store) (path : String) :
    (s.chunksOf path).Pairwise fun a b => a.firstLine ≤ b.firstLine := by
  refine (pairwise_stableSort (orders_firstLine _)).imp fun h => ?_
  simpa using h

/-- 保存する断片は、空でないベクトルの付いたものである。 -/
theorem map_fst_storable (chunks : List Chunk) :
    (storable chunks).map (·.1) = chunks.filter (·.hasVector) := by
  induction chunks with
  | nil => rfl
  | cons c chunks ih =>
    unfold storable at ih ⊢
    rw [List.filterMap_cons, List.filter_cons]
    unfold Chunk.hasVector
    cases c.vector with
    | none => exact ih
    | some v =>
      cases v with
      | nil => exact ih
      | cons x v => exact congrArg (c :: ·) ih

/-! ## 入れ替えと削除 -/

/--
**ファイルの入れ替えはそのファイルだけを入れ替え、保存した断片はそのまま読み出せる。**

入れ替えが通れば、返す数は空でないベクトルの付いた断片の数で、ファイルから読み出せるのはちょうど
それらの断片である。時刻はミリ秒までになり、ベクトルは断片からは外れるが、行には渡したとおりに残る。
ファイルの記録は消え、ほかのファイルの行と記録は変わらない。
ファイルの削除は、そのファイルの行の数を返し、そのファイルの行と記録だけを消す。
-/
theorem replaceFile_swaps (hs : s.Canonical) (hpath : ∀ c ∈ chunks, c.path = path)
    (hcan : ∀ c ∈ chunks, c.Canonical) (hids : (chunks.map (·.id)).Nodup) :
    (∀ n t, s.replaceFile path chunks = .ok (n, t) →
      n = (chunks.filter (·.hasVector)).length
      ∧ (t.chunksOf path).Perm ((chunks.filter (·.hasVector)).map Chunk.stored)
      ∧ (t.chunksOf path).Pairwise (fun a b => a.firstLine ≤ b.firstLine)
      ∧ (t.rowsOf path).map (fun r => (r.chunk, some r.vector))
        = (chunks.filter (·.hasVector)).map (fun c => (c.stored, c.vector))
      ∧ t.hash? path = none
      ∧ ∀ q, q ≠ path → Untouched q s t)
    ∧ (s.deleteFile path).1 = (s.rowsOf path).length
    ∧ Absent path (s.deleteFile path).2
    ∧ ∀ q, q ≠ path → Untouched q s (s.deleteFile path).2 := by
  refine ⟨fun n t h => ?_, rfl, absent_dropFile s path, fun q hq => untouched_dropFile hq s⟩
  have hrows := rowsOf_replaceFile hs hpath hcan hids h
  have hchunks : (t.rowsOf path).map (·.chunk) = (chunks.filter (·.hasVector)).map Chunk.stored := by
    have hfst := congrArg (List.map Prod.fst) hrows
    rw [List.map_map, List.map_map] at hfst
    rw [← map_fst_storable, List.map_map]
    exact hfst
  have hpairs : (t.rowsOf path).map (fun r => (r.chunk, some r.vector))
      = (chunks.filter (·.hasVector)).map fun c => (c.stored, c.vector) := by
    have hsome := congrArg (List.map fun i : Chunk × Vec => (i.1, some i.2)) hrows
    rw [List.map_map, List.map_map] at hsome
    rw [← map_fst_storable, List.map_map]
    refine hsome.trans (List.map_congr_left fun i hi => ?_)
    show (i.1.stored, some i.2) = (i.1.stored, i.1.vector)
    rw [(mem_storable hi).2.1]
  refine ⟨?_, ?_, pairwise_chunksOf t path, hpairs, hash?_replaceFile h,
    fun q hq => untouched_replaceFile hq hs hpath hcan hids h⟩
  · rw [(replaceFile_eq_ok h).1, ← map_fst_storable, List.length_map]
  · rw [← hchunks]
    exact chunksOf_perm t path

/-- `wide` とは別のファイルの断片。 -/
def elsewhere : Chunk :=
  { Chunk.ofSpan "b.rs" 1 1 "fn c() {}" .function "rust" 0 with vector := some [0.0, 1.0] }

/-- 二つのファイルの断片を持ち、片方の記録がある保存先。 -/
def twoFiles : Store :=
  [Operation.insert [wide, elsewhere], .recordFile "a.rs" "8f3c"].foldl Operation.apply (.empty true)

/-- 数でない単精度の数の一つ。 -/
def notNumber : Single := { bits := 0x7FC00001 }

/-- 時刻に端数があり、数でない成分もある、`wide` を上書きする断片。 -/
def revised : Chunk :=
  { wide with text := "fn a() { b() }", createdAt := 1234567, vector := some [0.5, notNumber] }

/-- 埋め込めなかった断片と `revised`。 -/
def revision : List Chunk := [{ narrow with vector := none }, revised]

/-- 埋め込めなかった断片は保存されず、保存した断片の時刻はミリ秒までになる。 -/
theorem replaceFile_swaps_revision : ∃ t, twoFiles.replaceFile "a.rs" revision = .ok (1, t)
    ∧ t.chunksOf "a.rs" = [{ revised with createdAt := 1000000, vector := none }]
    ∧ (t.rowsOf "a.rs").map (·.vector) = [[0.5, notNumber]]
    ∧ t.hash? "a.rs" = none ∧ Untouched "b.rs" twoFiles t := by
  have hstore : twoFiles.Canonical := by
    show ∀ r ∈ twoFiles.rows, r.name = chunkId r.path r.firstLine r.lastLine
    decide +kernel
  have hcan : ∀ c ∈ revision, c.Canonical := by
    show ∀ c ∈ revision, c.id = chunkId c.path c.firstLine c.lastLine
    decide +kernel
  have hpath : ∀ c ∈ revision, c.path = "a.rs" := by decide
  obtain ⟨hswap, -⟩ := replaceFile_swaps hstore hpath hcan (by decide)
  obtain ⟨t, ht⟩ : ∃ t, twoFiles.replaceFile "a.rs" revision = .ok (1, t) := ⟨_, rfl⟩
  obtain ⟨-, hchunks, -, hrows, hhash, hother⟩ := hswap 1 t ht
  refine ⟨t, ht, List.perm_singleton.mp hchunks, ?_, hhash, hother "b.rs" (by decide)⟩
  have hvectors := congrArg (List.map fun p => p.2.getD []) hrows
  rwa [List.map_map] at hvectors

end CodeSearch.Store
