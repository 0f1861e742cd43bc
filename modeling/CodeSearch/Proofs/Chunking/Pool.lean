import CodeSearch.Chunking.Pool
import CodeSearch.Proofs.Chunking.Independence
import Mathlib.Algebra.GroupWithZero.Nat

/-!
# 並行に切っても、一つずつ切ったのと同じ断片になる

作業者は保管を共有するので、ほかの作業者の問いが間に入る。しかし保管は読み込みと食い違わないまま
進むので、どの仕事も `Settled` のとおりに終わる。ファイルは一つずつ取られ、作業者がやめるのは
取るファイルがなくなったときだけなので、全員がやめたときには、すべての結果が書かれている。

* `Pool.Turn` — 一人が一つ進む、その仕方
* `Pool.Sound` — 進んでも保たれること
* `Pool.work` — 残りの手数。やめていない作業者が進むたびに減る
* `chunking_independent` — 断片は、保管の使われ方にも、作業者の数や進む順にもよらない
-/

namespace CodeSearch

open Registry Chunking

/-! ## 問う回数 -/

namespace Access

variable {α : Type} {loader : Loader}

/-- 読み込みと食い違わない保管に問う回数の上限。 -/
def cost (loader : Loader) : Access α → Nat
  | done _ => 0
  | supports _ next => max (cost loader (next true)) (cost loader (next false)) + 1
  | get l next => cost loader (next (served loader l)) + 1

/-- 問いを一つ済ませると、残りは減る。 -/
theorem cost_step {r : Registry} (h : r.Agrees loader) : ∀ {m : Access α}, m.result? = none →
    (m.step r).1.cost loader < m.cost loader
  | .supports l next, _ => by
    show (next (r.supports l)).cost loader < _ + 1
    refine Nat.lt_succ_of_le ?_
    cases r.supports l with
    | true => exact Nat.le_max_left _ _
    | false => exact Nat.le_max_right _ _
  | .get l next, _ => by
    show (next (r.get l).1).cost loader < _ + 1
    rw [h.get_fst l]
    exact Nat.lt_succ_self _

theorem eq_done_of_result? {m : Access α} {a : α} (h : m.result? = some a) : m = done a := by
  cases m <;> cases h
  rfl

end Access

/-! ## 作業者の進み方 -/

/-- やめたか。 -/
def Worker.isRetired : Worker → Bool
  | retired => true
  | _ => false

namespace Pool

variable {loader : Loader} {limits : ChunkLimits} {files : List SourceFile} {p q : Pool} {w : Nat}

/-- 全員がやめたか。 -/
def finished (p : Pool) : Bool := p.workers.all (·.isRetired)

/-- `w` 番の作業者がいて、まだやめていないか。 -/
def active (p : Pool) (w : Nat) : Bool := p.workers[w]?.any (!·.isRetired)

/-- `w` 番の作業者が一つ進む、その仕方。 -/
inductive Turn (limits : ChunkLimits) (files : List SourceFile) (p : Pool) (w : Nat) : Pool → Prop
  /-- 作業者がいないか、やめている。 -/
  | rest (h : p.active w = false) : Turn limits files p w p
  /-- 次のファイルを取る。 -/
  | take {file : SourceFile} (hw : p.workers[w]? = some .free)
    (hfile : files[p.next]? = some file) :
    Turn limits files p w
      { p with next := p.next + 1, workers := p.workers.set w (.busy p.next (job limits file)) }
  /-- 取るファイルがなくて、やめる。 -/
  | retire (hw : p.workers[w]? = some .free) (hnone : files[p.next]? = none) :
    Turn limits files p w { p with next := p.next + 1, workers := p.workers.set w .retired }
  /-- 切り終えた結果を書く。 -/
  | write {index : Nat} {outcome : ChunkOutcome}
    (hw : p.workers[w]? = some (.busy index (.done outcome))) :
    Turn limits files p w
      { p with results := p.results.set index (some outcome), workers := p.workers.set w .free }
  /-- 保管に一度問う。 -/
  | ask {index : Nat} {job : Access ChunkOutcome} (hw : p.workers[w]? = some (.busy index job))
    (hjob : job.result? = none) :
    Turn limits files p w
      { p with
        registry := (job.step p.registry).2
        workers := p.workers.set w (.busy index (job.step p.registry).1) }

/-- **一人の進み方は、この五つのどれかである。** -/
theorem turn_spec (limits : ChunkLimits) (files : List SourceFile) (p : Pool) (w : Nat) :
    Turn limits files p w (p.turn limits files w) := by
  unfold turn
  split
  · next hw =>
    split
    · next hfile => exact .take hw hfile
    · next hnone => exact .retire hw hnone
  · next index job hw =>
    split
    · next outcome hdone =>
      rw [Access.eq_done_of_result? hdone] at hw
      exact .write hw
    · next hjob => exact .ask hw hjob
  · next hw => exact .rest (by simp [active, hw, Worker.isRetired])
  · next hw => exact .rest (by simp [active, hw])

/-! ## 保たれること -/

/-- 進んでも保たれること。書かれた結果も、切っている途中の仕事も、`Settled` のとおりである。 -/
structure Sound (loader : Loader) (limits : ChunkLimits) (files : List SourceFile) (p : Pool) :
    Prop where
  agrees : p.registry.Agrees loader
  size : p.results.length = files.length
  /-- 書かれた結果は、その番号のファイルのものである。 -/
  written : ∀ {i : Nat} {o}, p.results[i]? = some (some o) →
    ∃ f, files[i]? = some f ∧ Settled limits loader f o
  /-- 切っている途中の仕事は、その番号のファイルのものである。 -/
  working : ∀ {w i : Nat} {m}, p.workers[w]? = some (.busy i m) →
    ∃ f, files[i]? = some f ∧ m.Ensures (truthful loader) (Settled limits loader f)
  /-- 取られたファイルは、結果が書かれているか、切っている途中である。 -/
  taken : ∀ {i : Nat}, i < p.next → i < files.length →
    (∃ o, p.results[i]? = some (some o)) ∨ ∃ (w : Nat) (m : _), p.workers[w]? = some (.busy i m)
  /-- やめた作業者がいれば、ファイルはすべて取られている。 -/
  spent : ∀ {w : Nat}, p.workers[w]? = some .retired → files.length ≤ p.next

theorem sound_start {r : Registry} (h : r.Agrees loader) (n : Nat) :
    Sound loader limits files (start r files n) := by
  have hfree : ∀ {w : Nat} {x}, (start r files n).workers[w]? = some x → x = .free := by
    intro w x hx
    exact List.eq_of_mem_replicate (List.mem_of_getElem? hx)
  refine ⟨h, by simp [start], ?_, ?_, nofun, ?_⟩
  · intro i o ho
    obtain ⟨f, -, hf⟩ := List.mem_map.mp (List.mem_of_getElem? ho)
    cases hf
  · intro w i m hw
    cases hfree hw
  · intro w hw
    cases hfree hw

/-- 列の一箇所を置き換えた後の、置き換えたものと違う項目は、元からあったものである。 -/
theorem getElem?_of_set {β : Type} {xs : List β} {i j : Nat} {a b : β}
    (h : (xs.set i a)[j]? = some b) (hne : b ≠ a) : xs[j]? = some b := by
  by_cases hij : i = j
  · subst hij
    rw [List.getElem?_set_self'] at h
    obtain ⟨_, -, heq⟩ := Option.map_eq_some_iff.mp h
    exact absurd heq.symm hne
  · rwa [List.getElem?_set_ne hij] at h

/-- 別のことをしていた作業者が進んでも、`i` 番のファイルを切っている作業者は切り続けている。 -/
theorem exists_busy_set {workers : List Worker} {i v w : Nat} {m : Access ChunkOutcome}
    {x y : Worker} (hv : workers[v]? = some (.busy i m)) (hw : workers[w]? = some x)
    (hx : ∀ m, x ≠ .busy i m) : ∃ (v : Nat) (m : _), (workers.set w y)[v]? = some (.busy i m) := by
  have hne : w ≠ v := by
    rintro rfl
    exact hx m (Option.some.inj (hw.symm.trans hv))
  exact ⟨v, m, (List.getElem?_set_ne hne).trans hv⟩

/-- 作業者に仕事を渡しても、切っている途中の仕事は、その番号のファイルのものである。 -/
theorem Sound.working_set (h : Sound loader limits files p) {index v i : Nat} {file : SourceFile}
    {job m : Access ChunkOutcome} (hfile : files[index]? = some file)
    (hjob : job.Ensures (truthful loader) (Settled limits loader file))
    (hv : (p.workers.set w (.busy index job))[v]? = some (.busy i m)) :
    ∃ f, files[i]? = some f ∧ m.Ensures (truthful loader) (Settled limits loader f) := by
  by_cases heq : Worker.busy i m = .busy index job
  · cases heq
    exact ⟨file, hfile, hjob⟩
  · exact h.working (getElem?_of_set hv heq)

/-- 次のファイルを取っても保たれる。 -/
theorem Sound.take (h : Sound loader limits files p) {file : SourceFile}
    (hw : p.workers[w]? = some .free) (hfile : files[p.next]? = some file) :
    Sound loader limits files
      { p with
        next := p.next + 1
        workers := p.workers.set w (.busy p.next (job limits file)) } := by
  have hlt : w < p.workers.length := (List.getElem?_eq_some_iff.mp hw).1
  refine ⟨h.agrees, h.size, h.written, h.working_set hfile (job_settled limits loader file), ?_,
    fun hv => Nat.le_succ_of_le (h.spent (getElem?_of_set hv nofun))⟩
  -- 前に取られたファイルか、いま取ったファイルである
  intro i hi hlen
  rcases Nat.lt_or_eq_of_le (Nat.le_of_lt_succ hi) with hi | rfl
  · exact (h.taken hi hlen).imp id fun ⟨_, _, hv⟩ => exists_busy_set hv hw nofun
  · exact Or.inr ⟨w, _, List.getElem?_set_self hlt⟩

/-- 取るファイルがなくてやめても保たれる。 -/
theorem Sound.retire (h : Sound loader limits files p) (hw : p.workers[w]? = some .free)
    (hnone : files[p.next]? = none) :
    Sound loader limits files
      { p with next := p.next + 1, workers := p.workers.set w .retired } := by
  have hspent : files.length ≤ p.next := List.getElem?_eq_none_iff.mp hnone
  refine ⟨h.agrees, h.size, h.written, fun hv => h.working (getElem?_of_set hv nofun), ?_,
    fun _ => Nat.le_succ_of_le hspent⟩
  intro i _ hlen
  exact (h.taken (Nat.lt_of_lt_of_le hlen hspent) hlen).imp id
    fun ⟨_, _, hv⟩ => exists_busy_set hv hw nofun

/-- 切り終えた結果を書いても保たれる。 -/
theorem Sound.write (h : Sound loader limits files p) {index : Nat} {outcome : ChunkOutcome}
    (hw : p.workers[w]? = some (.busy index (.done outcome))) :
    Sound loader limits files
      { p with
        results := p.results.set index (some outcome)
        workers := p.workers.set w .free } := by
  obtain ⟨f, hf, hsettled⟩ := h.working hw
  have hindex : index < p.results.length := by
    rw [h.size]
    exact (List.getElem?_eq_some_iff.mp hf).1
  refine ⟨h.agrees, (List.length_set ..).trans h.size, ?_,
    fun hv => h.working (getElem?_of_set hv nofun), ?_,
    fun hv => h.spent (getElem?_of_set hv nofun)⟩
  · intro i o ho
    by_cases hi : index = i
    · subst hi
      rw [List.getElem?_set_self hindex] at ho
      cases ho
      exact ⟨f, hf, hsettled⟩
    · rw [List.getElem?_set_ne hi] at ho
      exact h.written ho
  · intro i hi hlen
    by_cases hne : index = i
    · subst hne
      exact Or.inl ⟨outcome, List.getElem?_set_self hindex⟩
    · refine (h.taken hi hlen).imp ?_ ?_
      · exact fun ⟨o, ho⟩ => ⟨o, (List.getElem?_set_ne hne).trans ho⟩
      · exact fun ⟨_, _, hv⟩ => exists_busy_set hv hw fun _ heq => hne (Worker.busy.inj heq).1

/-- 保管に一度問うても保たれる。保管はほかの作業者に進められているが、食い違わないので、答えは制限に従う。 -/
theorem Sound.ask (h : Sound loader limits files p) {index : Nat} {job : Access ChunkOutcome}
    (hw : p.workers[w]? = some (.busy index job)) :
    Sound loader limits files
      { p with
        registry := (job.step p.registry).2
        workers := p.workers.set w (.busy index (job.step p.registry).1) } := by
  have hlt : w < p.workers.length := (List.getElem?_eq_some_iff.mp hw).1
  obtain ⟨f, hf, hsettled⟩ := h.working hw
  obtain ⟨hrest, hagrees⟩ := hsettled.step (kept_truthful loader) h.agrees
  refine ⟨hagrees, h.size, h.written, h.working_set hf hrest, ?_,
    fun hv => h.spent (getElem?_of_set hv nofun)⟩
  intro i hi hlen
  refine (h.taken hi hlen).imp id ?_
  rintro ⟨v, m, hv⟩
  by_cases hne : index = i
  · subst hne
    exact ⟨w, _, List.getElem?_set_self hlt⟩
  · exact exists_busy_set hv hw fun _ heq => hne (Worker.busy.inj heq).1

/-- **一人が一つ進んでも保たれる。** -/
theorem Sound.step (h : Sound loader limits files p) (ht : Turn limits files p w q) :
    Sound loader limits files q := by
  cases ht with
  | rest => exact h
  | take hw hfile => exact h.take hw hfile
  | retire hw hnone => exact h.retire hw hnone
  | write hw => exact h.write hw
  | ask hw _ => exact h.ask hw

theorem Sound.run (schedule : List Nat) : ∀ {p : Pool}, Sound loader limits files p →
    Sound loader limits files (p.run limits files schedule) := by
  induction schedule with
  | nil => exact fun h => h
  | cons w schedule ih => exact fun h => ih (h.step (turn_spec limits files _ w))

/-! ## 全員がやめたとき -/

theorem forall₂_filterMap {β γ : Type} {R : β → γ → Prop} : ∀ {xs : List β} {ys : List (Option γ)},
    ys.length = xs.length →
    (∀ (i : Nat) x, xs[i]? = some x → ∃ y, ys[i]? = some (some y) ∧ R x y) →
    List.Forall₂ R xs (ys.filterMap id)
  | [], ys, hlen, _ => by
    rw [List.length_eq_zero_iff.mp hlen]
    exact .nil
  | x :: xs, [], hlen, _ => nomatch hlen
  | x :: xs, y :: ys, hlen, h => by
    obtain ⟨z, hz, hR⟩ := h 0 x rfl
    obtain rfl : y = some z := Option.some.inj hz
    refine .cons hR (forall₂_filterMap (Nat.succ.inj hlen) fun i a ha => ?_)
    exact h (i + 1) a ha

/-- **全員がやめたときには、どのファイルにも、ファイルの順に一つずつ結果がある。** -/
theorem Sound.outcomes (h : Sound loader limits files p) (hw : p.workers ≠ [])
    (hf : p.finished = true) : List.Forall₂ (Settled limits loader) files p.outcomes := by
  have hretired : ∀ {w : Nat} {x}, p.workers[w]? = some x → x.isRetired = true :=
    fun hx => List.all_eq_true.mp hf _ (List.mem_of_getElem? hx)
  -- 誰かがやめたのだから、ファイルはすべて取られている
  have hspent : files.length ≤ p.next := by
    obtain ⟨x, rest, hcons⟩ := List.exists_cons_of_ne_nil hw
    have hx : p.workers[0]? = some x := by rw [hcons]; rfl
    cases x with
    | retired => exact h.spent hx
    | free => cases hretired hx
    | busy i m => cases hretired hx
  refine forall₂_filterMap h.size fun i f hfile => ?_
  have hi : i < files.length := (List.getElem?_eq_some_iff.mp hfile).1
  rcases h.taken (Nat.lt_of_lt_of_le hi hspent) hi with ⟨o, ho⟩ | ⟨w, m, hbusy⟩
  · obtain ⟨g, hg, hsettled⟩ := h.written ho
    cases hfile.symm.trans hg
    exact ⟨o, ho, hsettled⟩
  · cases hretired hbusy

/-! ## 残りの手数 -/

/-- 作業者に残っている手数の上限。 -/
def load (loader : Loader) : Worker → Nat
  | .free => 1
  | .busy _ m => m.cost loader + 2
  | .retired => 0

/-- 残りの手数の上限。まだ取られていないファイルの分も数える。 -/
def work (loader : Loader) (limits : ChunkLimits) (files : List SourceFile) (p : Pool) : Nat :=
  ((files.drop p.next).map fun f => (job limits f).cost loader + 2).sum
    + (p.workers.map (load loader)).sum

theorem sum_map_set {β : Type} (f : β → Nat) (y : β) : ∀ {xs : List β} {i : Nat} {x : β},
    xs[i]? = some x → ((xs.set i y).map f).sum + f x = (xs.map f).sum + f y
  | a :: xs, 0, x, h => by
    obtain rfl : a = x := Option.some.inj h
    simp only [List.set_cons_zero, List.map_cons, List.sum_cons]
    omega
  | a :: xs, i + 1, x, h => by
    have ih := @sum_map_set β f y xs i x h
    simp only [List.set_cons_succ, List.map_cons, List.sum_cons]
    omega

/-- **やめていない作業者が進むたびに、残りの手数は減る。** -/
theorem Sound.work_lt (h : Sound loader limits files p) (ht : Turn limits files p w q)
    (ha : p.active w = true) : q.work loader limits files < p.work loader limits files := by
  unfold work
  cases ht with
  | rest hrest => exact absurd (hrest.symm.trans ha) (by decide)
  | @take file hw hfile =>
    obtain ⟨hlt, rfl⟩ := List.getElem?_eq_some_iff.mp hfile
    have hset := sum_map_set (load loader) (.busy p.next (job limits files[p.next])) hw
    rw [List.drop_eq_getElem_cons hlt, List.map_cons, List.sum_cons]
    simp only [load] at hset ⊢
    omega
  | retire hw hnone =>
    have hspent : files.length ≤ p.next := List.getElem?_eq_none_iff.mp hnone
    have hset := sum_map_set (load loader) .retired hw
    rw [List.drop_eq_nil_of_le hspent, List.drop_eq_nil_of_le (Nat.le_succ_of_le hspent)]
    simp only [load] at hset ⊢
    omega
  | write hw =>
    have hset := sum_map_set (load loader) .free hw
    simp only [load, Access.cost] at hset ⊢
    omega
  | @ask index m hw hm =>
    have hset := sum_map_set (load loader) (.busy index (m.step p.registry).1) hw
    have hcost := Access.cost_step h.agrees hm
    simp only [load] at hset ⊢
    omega

/-- どの手番でも、やめていない作業者が進むこと。 -/
def Live (limits : ChunkLimits) (files : List SourceFile) : Pool → List Nat → Prop
  | _, [] => True
  | p, w :: schedule =>
    p.active w = true ∧ Live limits files (p.turn limits files w) schedule

/-- **やめていない作業者が進むかぎり、手数には上限がある。** -/
theorem Sound.live_length : ∀ {schedule : List Nat} {p : Pool}, Sound loader limits files p →
    p.Live limits files schedule → schedule.length ≤ p.work loader limits files
  | [], _, _, _ => Nat.zero_le _
  | w :: schedule, p, h, ⟨ha, hlive⟩ => by
    have ht := turn_spec limits files p w
    have hrest := live_length (h.step ht) hlive
    exact Nat.lt_of_le_of_lt hrest (h.work_lt ht ha)

theorem Live.append : ∀ {schedule : List Nat} {p : Pool}, p.Live limits files schedule →
    (p.run limits files schedule).active w = true → p.Live limits files (schedule ++ [w])
  | [], _, _, ha => ⟨ha, trivial⟩
  | _ :: _, _, ⟨hfirst, hlive⟩, ha => ⟨hfirst, hlive.append ha⟩

/-- 全員がやめていなければ、まだ進める。 -/
theorem exists_active (hf : p.finished = false) : ∃ w, p.active w = true := by
  obtain ⟨x, hx, hactive⟩ := List.all_eq_false.mp hf
  obtain ⟨w, hw⟩ := List.getElem?_of_mem hx
  exact ⟨w, by simpa [active, hw] using hactive⟩

theorem Turn.length_eq (ht : Turn limits files p w q) : q.workers.length = p.workers.length := by
  cases ht <;> simp

theorem length_workers_run (schedule : List Nat) : ∀ p : Pool,
    (p.run limits files schedule).workers.length = p.workers.length := by
  induction schedule with
  | nil => exact fun _ => rfl
  | cons w schedule ih => exact fun p => (ih _).trans (turn_spec limits files p w).length_eq

end Pool

namespace Chunking

variable {loader : Loader} {r : Registry} {limits : ChunkLimits} {files : List SourceFile}

/-! ## ファイルの列を切る -/

theorem workers_team_ne_nil (limits : ChunkLimits) (maxWorkers : Nat) (schedule : List Nat)
    (r : Registry) (files : List SourceFile) :
    ((team maxWorkers r files).run limits files schedule).workers ≠ [] := by
  rw [← List.length_pos_iff, Pool.length_workers_run]
  show 0 < (List.replicate _ _).length
  rw [List.length_replicate]
  exact Nat.le_max_left _ _

theorem agrees_chunkFiles (h : r.Agrees loader) (limits : ChunkLimits) (maxWorkers : Nat)
    (schedule : List Nat) (files : List SourceFile) :
    (chunkFiles limits maxWorkers schedule r files).2.Agrees loader := by
  unfold chunkFiles
  simp only []
  split
  · exact (chunkAll_settled limits files h).2
  · exact ((Pool.sound_start h _).run schedule).agrees

/-- **全員がやめるまで進めば、一人でも何人でも、一つずつ `Settled` のとおりに終わる。** -/
theorem chunkFiles_settled (h : r.Agrees loader) (maxWorkers : Nat) (schedule : List Nat)
    (hdone : workerCount maxWorkers files.length = 1
      ∨ ((team maxWorkers r files).run limits files schedule).finished = true) :
    List.Forall₂ (Settled limits loader) files
      (chunkFiles limits maxWorkers schedule r files).1 := by
  unfold chunkFiles
  simp only []
  split
  · exact (chunkAll_settled limits files h).1
  · next hmany =>
    exact ((Pool.sound_start h _).run schedule).outcomes
      (workers_team_ne_nil limits maxWorkers schedule r files) (hdone.resolve_left hmany)

/--
**断片は、保管の使われ方にも、作業者の数や進む順にもよらない。**

どう使われてきた二つの保管でも、切った断片は同じで、いつも切れ、空白だけの本文でなければ切り方も同じである。
断片がないのは空白だけの本文に限り、構文木で切れなければ行頭の宣言で切った断片になる。

ファイルの列は、作業者がどの順に進んでも、全員がやめたときにはファイルの順に一つずつ結果があり、
それぞれの断片はそのファイルだけを切ったものである。作業者が進める手数には上限があり、
全員がやめるまでは誰かが進める。
-/
theorem chunking_independent {r r' : Registry} (h : Reachable loader r) (h' : Reachable loader r')
    (limits : ChunkLimits) :
    (∀ file : SourceFile,
      (chunk limits r file).1.parsed = true
      ∧ (chunk limits r file).1.chunks = (chunk limits r' file).1.chunks
      ∧ (Text.allBlank file.text = false →
        (chunk limits r file).1.method = (chunk limits r' file).1.method)
      ∧ ((chunk limits r file).1.chunks = [] ↔ Text.allBlank file.text = true)
      ∧ ((byTree r file limits.budget).1.parsed = false →
        (chunk limits r file).1.chunks = (byLine limits.window file limits.budget).chunks))
    ∧ ∀ (files : List SourceFile) (maxWorkers : Nat),
      (∀ schedule, (workerCount maxWorkers files.length = 1
          ∨ ((team maxWorkers r files).run limits files schedule).finished = true) →
        (chunkFiles limits maxWorkers schedule r files).1.map (·.chunks)
          = files.map fun f => (chunk limits r' f).1.chunks)
      ∧ (∃ bound, ∀ schedule, (team maxWorkers r files).Live limits files schedule →
        schedule.length ≤ bound)
      ∧ ∀ schedule, (team maxWorkers r files).Live limits files schedule →
        ((team maxWorkers r files).run limits files schedule).finished = true
        ∨ ∃ w, (team maxWorkers r files).Live limits files (schedule ++ [w]) := by
  have hr := h.agrees
  refine ⟨fun file => ?_, fun files maxWorkers => ⟨fun schedule hdone => ?_, ?_, ?_⟩⟩
  · have hone := (chunk_settled hr limits file).1
    have hother := (chunk_settled h'.agrees limits file).1
    refine ⟨hone.parsed, ?_, hone.method_eq_method hother, ?_, hone.chunks_eq_byLine hr⟩
    · rw [hone.chunks_eq_alone, hother.chunks_eq_alone]
    · rw [hone.chunks_eq_alone]
      exact alone_eq_nil_iff limits loader file
  · rw [map_chunks_of_settled (chunkFiles_settled hr maxWorkers schedule hdone)]
    exact List.map_congr_left fun f _ => (chunk_chunks h'.agrees limits f).symm
  · exact ⟨_, fun schedule => (Pool.sound_start hr _).live_length⟩
  · intro schedule hlive
    cases hf : ((team maxWorkers r files).run limits files schedule).finished with
    | true => exact Or.inl rfl
    | false =>
      obtain ⟨w, hw⟩ := Pool.exists_active hf
      exact Or.inr ⟨w, hlive.append hw⟩

/-- 宣言が二つあるファイルと、宣言のないファイル。 -/
def pair : List SourceFile :=
  [twoDeclarations, { path := "notes.txt", text := "plain\n", language := .unknown }]

/-- 二人が交互に進む列。 -/
def alternating : List Nat := (List.replicate 9 [0, 1]).flatten

/-- Rust の文法を読めないことを覚えている保管でも、覚えていない保管でも、二人で切った断片は同じである。
覚えている保管は行頭の宣言を、覚えていない保管は構文木を先に試す。 -/
theorem chunking_independent_missing :
    let fresh := Registry.ofLoader (.lacking [.rust])
    select (fresh.request .rust) .rust = .line ∧ select fresh .rust = .tree
    ∧ ((team 2 (fresh.request .rust) pair).run {} pair alternating).finished = true
    ∧ (chunkFiles {} 2 alternating (fresh.request .rust) pair).1.map (·.chunks)
      = pair.map fun f => (chunk {} fresh f).1.chunks := by
  have hfresh : Reachable (.lacking [.rust]) (.ofLoader (.lacking [.rust])) := .fresh
  have hdone : ((team 2 ((Registry.ofLoader (.lacking [.rust])).request .rust) pair).run {} pair
      alternating).finished = true := by decide +kernel
  refine ⟨by decide +kernel, by decide +kernel, hdone, ?_⟩
  exact ((chunking_independent (hfresh.step (.getLanguage .rust)) hfresh {}).2 pair 2).1
    alternating (Or.inr hdone)

end Chunking

end CodeSearch
