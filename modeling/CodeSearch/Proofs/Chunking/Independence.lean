import CodeSearch.Proofs.Chunking.Partition
import CodeSearch.Proofs.Grammar.Registry
import Mathlib.Data.List.Forall2

/-!
# 断片は保管の状態によらない

構文木で切る仕事は文法を求めるだけなので、結果は保管の状態によらない。切り方の選択のほうは状態による。
読み込みに失敗したことを覚えていれば行頭の宣言で切り、覚えていなければ構文木を試してから行頭の宣言で
切る。しかし、どちらでも断片と切り方は同じになる。

* `determined_treeJob` — 構文木で切った結果は、保管の状態によらない
* `job_settled` — 切る仕事は、保管がどう答えても `Settled` のとおりに終わる
* `chunk_chunks` — 断片は、何も読み込んでいない保管で切ったものと同じである
* `Registry.Reachable.agrees` — どう使われてきた保管も、読み込みと食い違わない
-/

namespace CodeSearch

namespace Chunking

open Registry

variable {loader : Loader} {r : Registry} {limits : ChunkLimits} {file : SourceFile}

/-- 何も読み込んでいない保管で、ファイルだけを切った断片。 -/
def alone (limits : ChunkLimits) (loader : Loader) (file : SourceFile) : List Chunk :=
  (chunk limits (.ofLoader loader) file).1.chunks

theorem linePartition_alone (limits : ChunkLimits) (loader : Loader) (file : SourceFile) :
    LinePartition file.path file.text (alone limits loader file) :=
  linePartition_chunk limits _ file

/-! ## 構文木で切る仕事 -/

theorem determined_scriptPoints (s : Scope) (trees : Trees) (element : Node) :
    (s.scriptPoints trees element).Determined loader := by
  unfold Scope.scriptPoints
  split
  · exact Access.determined_pure _
  · simp only []
    split
    · exact Access.determined_pure _
    · refine (Access.determined_askGrammar _).bind fun grammar => ?_
      split
      · split <;> exact Access.determined_pure _
      · exact Access.determined_pure _

theorem determined_gather (s : Scope) (trees : Trees) : ∀ found : List Found,
    (s.gather trees found).Determined loader
  | [] => Access.determined_pure _
  | .point _ :: rest => (determined_gather s trees rest).bind fun _ => Access.determined_pure _
  | .script element :: rest =>
    (determined_scriptPoints s trees element).bind fun _ =>
      (determined_gather s trees rest).bind fun _ => Access.determined_pure _

theorem determined_extract (trees : Trees) (language : Language) (text : String) (root : Node) :
    (Breakpoint.extract trees language text root).Determined loader := by
  unfold Breakpoint.extract
  split
  · exact Access.determined_pure _
  · exact determined_gather _ _ _

theorem determined_findBreakpoints (trees : Trees) (language : Language) (text : String) :
    (findBreakpoints trees language text).Determined loader := by
  unfold findBreakpoints
  refine (Access.determined_askGrammar language).bind fun grammar => ?_
  cases grammar with
  | none => exact Access.determined_pure _
  | some g =>
    simp only []
    split
    · exact Access.determined_pure _
    · split
      · exact Access.determined_pure _
      · refine (determined_extract _ _ _ _).bind fun points => ?_
        split <;> exact Access.determined_pure _

/-- **構文木で切った結果は、保管の状態によらない。** -/
theorem determined_treeJob (file : SourceFile) (budget : Nat) :
    (treeJob file budget).Determined loader := by
  unfold treeJob
  split
  · exact Access.determined_pure _
  · refine (determined_findBreakpoints _ _ _).bind fun found => ?_
    cases found <;> exact Access.determined_pure _

/-- 構文木で切った結果は、食い違わないどの保管でも同じである。 -/
theorem byTree_fst (h : r.Agrees loader) (file : SourceFile) (budget : Nat) :
    (byTree r file budget).1 = (byTree (.ofLoader loader) file budget).1 :=
  ((determined_treeJob file budget).ensures.run (kept_truthful loader) h).1

/-- 文法の返らない言語の本文は、構文木では切れない。空白だけの本文だけは、断片なしで切れる。 -/
theorem byTree_of_served_none (h : r.Agrees loader) (budget : Nat)
    (hnone : served loader file.language = none) (hblank : Text.allBlank file.text = false) :
    (byTree r file budget).1.parsed = false := by
  have hfails : (treeJob file budget).Ensures (truthful loader) fun o => o.parsed = false := by
    unfold treeJob findBreakpoints
    rw [if_neg (by rw [hblank]; decide)]
    intro grammar hgrammar
    rw [hgrammar.trans hnone]
    rfl
  exact (hfails.run (kept_truthful loader) h).1

/-! ## 切り方を選ぶ仕事 -/

/-- 落ち着く結果。構文木で切れれば構文木で、切れなければ行頭の宣言で切る。
空白だけの本文では、切り方は決まらない。 -/
structure Settled (limits : ChunkLimits) (loader : Loader) (file : SourceFile)
    (o : ChunkOutcome) : Prop where
  parsed : o.parsed = true
  chunks_eq : o.chunks =
    if (byTree (.ofLoader loader) file limits.budget).1.parsed then
      (byTree (.ofLoader loader) file limits.budget).1.chunks
    else (byLine limits.window file limits.budget).chunks
  method_eq : Text.allBlank file.text = false → o.method =
    if (byTree (.ofLoader loader) file limits.budget).1.parsed then .tree else .line

theorem byLine_parsed (window : Nat) (file : SourceFile) (budget : Nat) :
    (byLine window file budget).parsed = true ∧ (byLine window file budget).method = .line := by
  unfold byLine
  split <;> exact ⟨rfl, rfl⟩

theorem byTree_method (r : Registry) (file : SourceFile) (budget : Nat) :
    (byTree r file budget).1.method = .tree := by
  have htree : (treeJob file budget).Ensures .any fun o => o.method = .tree := by
    unfold treeJob
    split
    · exact .pure rfl
    · refine (Access.Ensures.trivial _).bind fun found _ => ?_
      cases found <;> exact .pure rfl
  exact (htree.run Answers.kept_any trivial).1

theorem chunks_of_allBlank (hblank : Text.allBlank file.text = true) (window budget : Nat) :
    (byLine window file budget).chunks = []
    ∧ (byTree r file budget).1.parsed = true ∧ (byTree r file budget).1.chunks = [] := by
  unfold byLine byTree treeJob
  rw [if_pos hblank, if_pos hblank]
  exact ⟨rfl, rfl, rfl⟩

/-- **切る仕事は、保管がどう答えても `Settled` のとおりに終わる。** -/
theorem job_settled (limits : ChunkLimits) (loader : Loader) (file : SourceFile) :
    (job limits file).Ensures (truthful loader) (Settled limits loader file) := by
  obtain ⟨hparsed, hmethod⟩ := byLine_parsed limits.window file limits.budget
  unfold job
  intro supported hsupported
  cases supported with
  | false =>
    -- 構文木を試さないのは、試しても切れない言語だけである
    refine .pure ⟨hparsed, ?_, fun hblank => ?_⟩
    · cases hblank : Text.allBlank file.text with
      | true =>
        obtain ⟨hline, -, htree⟩ := chunks_of_allBlank (r := .ofLoader loader) hblank
          limits.window limits.budget
        rw [hline, htree, ite_self]
      | false =>
        have hfails := byTree_of_served_none (agrees_ofLoader loader) limits.budget
          (hsupported rfl) hblank
        rw [if_neg (by rw [hfails]; decide)]
    · have hfails := byTree_of_served_none (agrees_ofLoader loader) limits.budget
        (hsupported rfl) hblank
      rw [if_neg (by rw [hfails]; decide), hmethod]
  | true =>
    refine (determined_treeJob file limits.budget).ensures.bind ?_
    rintro outcome rfl
    split
    · next htree => exact .pure ⟨htree, (if_pos htree).symm,
        fun _ => (byTree_method _ file _).trans (if_pos htree).symm⟩
    · next htree => exact .pure ⟨hparsed, (if_neg htree).symm,
        fun _ => hmethod.trans (if_neg htree).symm⟩

/-- 食い違わない保管で切った結果と、その後の保管。 -/
theorem chunk_settled (h : r.Agrees loader) (limits : ChunkLimits) (file : SourceFile) :
    Settled limits loader file (chunk limits r file).1 ∧ (chunk limits r file).2.Agrees loader :=
  (job_settled limits loader file).run (kept_truthful loader) h

theorem Settled.chunks_eq_alone {o : ChunkOutcome} (h : Settled limits loader file o) :
    o.chunks = alone limits loader file :=
  h.chunks_eq.trans (chunk_settled (agrees_ofLoader loader) limits file).1.chunks_eq.symm

/-- 切り方は、空白だけの本文でなければ決まる。 -/
theorem Settled.method_eq_method {o o' : ChunkOutcome} (h : Settled limits loader file o)
    (h' : Settled limits loader file o') (hblank : Text.allBlank file.text = false) :
    o.method = o'.method :=
  (h.method_eq hblank).trans (h'.method_eq hblank).symm

/-- 断片がないのは、本文に空白しかないときに限る。 -/
theorem alone_eq_nil_iff (limits : ChunkLimits) (loader : Loader) (file : SourceFile) :
    alone limits loader file = [] ↔ Text.allBlank file.text = true := by
  constructor
  · intro h
    have hpart := linePartition_alone limits loader file
    rw [h] at hpart
    exact hpart.allBlank_of_nil
  · intro hblank
    obtain ⟨-, hparsed, hnil⟩ := chunks_of_allBlank (r := .ofLoader loader) hblank
      limits.window limits.budget
    unfold alone
    rw [(chunk_settled (agrees_ofLoader loader) limits file).1.chunks_eq, if_pos hparsed, hnil]

/-- 構文木で切れなければ、行頭の宣言で切った断片に落ち着く。 -/
theorem Settled.chunks_eq_byLine {o : ChunkOutcome} (h : Settled limits loader file o)
    (hr : r.Agrees loader) (hfails : (byTree r file limits.budget).1.parsed = false) :
    o.chunks = (byLine limits.window file limits.budget).chunks := by
  rw [byTree_fst hr] at hfails
  rw [h.chunks_eq, if_neg (by rw [hfails]; decide)]

theorem agrees_chunk (h : r.Agrees loader) (limits : ChunkLimits) (file : SourceFile) :
    (chunk limits r file).2.Agrees loader :=
  (chunk_settled h limits file).2

/-- **断片は保管の状態によらない。** -/
theorem chunk_chunks (h : r.Agrees loader) (limits : ChunkLimits) (file : SourceFile) :
    (chunk limits r file).1.chunks = alone limits loader file :=
  (chunk_settled h limits file).1.chunks_eq_alone

theorem map_chunks_of_settled {files : List SourceFile} {outcomes : List ChunkOutcome}
    (h : List.Forall₂ (Settled limits loader) files outcomes) :
    outcomes.map (·.chunks) = files.map (alone limits loader) := by
  induction h with
  | nil => rfl
  | cons hone _ ih => rw [List.map_cons, List.map_cons, ih, hone.chunks_eq_alone]

/-- ファイルの列を順に切る仕事も、一つずつ `Settled` のとおりに終わる。 -/
theorem chunkAll_settled (limits : ChunkLimits) : ∀ (files : List SourceFile) {r : Registry},
    r.Agrees loader →
    List.Forall₂ (Settled limits loader) files (chunkAll limits r files).1
    ∧ (chunkAll limits r files).2.Agrees loader
  | [], _, h => ⟨.nil, h⟩
  | f :: fs, r, h => by
    obtain ⟨hone, hnext⟩ := chunk_settled h limits f
    obtain ⟨hall, hlast⟩ := chunkAll_settled limits fs hnext
    exact ⟨.cons hone hall, hlast⟩

end Chunking

/-! ## 使われてきた保管 -/

namespace Registry

/-- 保管の使い方。 -/
inductive Operation where
  | get (extension : String)
  | getLanguage (l : Language)
  | supports (extension : String)
  | supportsLanguage (l : Language)
  | clear
  | reset
  | byTree (file : SourceFile) (budget : Nat)
  | chunk (limits : ChunkLimits) (file : SourceFile)

/-- 使った後の保管。扱えるかを問うだけなら、変わらない。 -/
def Operation.apply (r : Registry) : Operation → Registry
  | get extension => r.request (.ofExtension extension)
  | getLanguage l => r.request l
  | supports _ | supportsLanguage _ => r
  | clear => r.clear
  | reset => r.reset
  | byTree file budget => (Chunking.byTree r file budget).2
  | chunk limits file => (Chunking.chunk limits r file).2

/-- 何も読み込んでいない保管を、好きなだけ使って得られること。 -/
inductive Reachable (loader : Loader) : Registry → Prop
  | fresh : Reachable loader (.ofLoader loader)
  | step {r : Registry} (h : Reachable loader r) (op : Operation) : Reachable loader (op.apply r)

variable {loader : Loader} {r : Registry}

theorem Agrees.apply (h : Agrees loader r) (op : Operation) : Agrees loader (op.apply r) := by
  cases op with
  | get extension => exact h.get _
  | getLanguage l => exact h.get l
  | supports extension => exact h
  | supportsLanguage l => exact h
  | clear => exact h.clear
  | reset => exact h.reset
  | byTree file budget =>
    exact ((Access.Ensures.trivial (Chunking.treeJob file budget)).run (kept_truthful loader) h).2
  | chunk limits file => exact Chunking.agrees_chunk h limits file

/-- **使われてきた保管は、どれも読み込みと食い違わない。** -/
theorem Reachable.agrees (h : Reachable loader r) : Agrees loader r := by
  induction h with
  | fresh => exact agrees_ofLoader loader
  | step _ op ih => exact ih.apply op

end Registry

end CodeSearch
