import CodeSearch.Proofs.Embedding.Stages
import CodeSearch.Proofs.Store.Files

/-!
# 埋め込みの勘定

処理した断片は、埋め込めた列か埋め込めなかった列のどちらかにちょうど一度、元の順のまま入る。
埋め込めた断片には、求めた長さの空でないベクトルが付く。
束で送るか一つずつ送るか、どこで失敗するかにはよらない。

提供元については、返すベクトルが満たす条件 `R` だけを仮定する（`Answers`）。
何も仮定しないときは、いつでも真の条件をとる。

* `Accounts` — 勘定が合っていること
* `generate_batches` — 成果が返れば、処理した束について勘定が合う
* `generate_accounts` — 処理したのは、断片の列の前の部分である
-/

namespace CodeSearch

/-! ## 順を変えずに交ぜる -/

/-- `zs` は `xs` と `ys` を、それぞれの順を変えずに交ぜたものである。 -/
inductive Interleaved {α : Type} : List α → List α → List α → Prop where
  | nil : Interleaved [] [] []
  | left {x : α} {xs ys zs : List α} : Interleaved xs ys zs → Interleaved (x :: xs) ys (x :: zs)
  | right {y : α} {xs ys zs : List α} : Interleaved xs ys zs → Interleaved xs (y :: ys) (y :: zs)

namespace Interleaved

variable {α β : Type} {xs ys zs xs' ys' zs' : List α}

theorem append (h : Interleaved xs ys zs) (h' : Interleaved xs' ys' zs') :
    Interleaved (xs ++ xs') (ys ++ ys') (zs ++ zs') := by
  induction h with
  | nil => exact h'
  | left _ ih => exact ih.left
  | right _ ih => exact ih.right

theorem length_eq (h : Interleaved xs ys zs) : zs.length = xs.length + ys.length := by
  induction h with
  | nil => rfl
  | left _ ih =>
    simp only [List.length_cons, ih]
    omega
  | right _ ih =>
    simp only [List.length_cons, ih]
    omega

/-- 条件で選んでも、交ぜたものである。 -/
theorem filter (p : α → Bool) (h : Interleaved xs ys zs) :
    Interleaved (xs.filter p) (ys.filter p) (zs.filter p) := by
  induction h with
  | nil => exact .nil
  | @left x xs ys zs _ ih =>
    rw [List.filter_cons, List.filter_cons]
    split
    · exact ih.left
    · exact ih
  | @right y xs ys zs _ ih =>
    rw [List.filter_cons, List.filter_cons]
    split
    · exact ih.right
    · exact ih

/-- 空の列と交ぜたものは、元の列である。 -/
theorem eq_left (h : Interleaved xs ys zs) (hy : ys = []) : xs = zs := by
  induction h with
  | nil => rfl
  | left _ ih => rw [ih hy]
  | right => cases hy

theorem symm (h : Interleaved xs ys zs) : Interleaved ys xs zs := by
  induction h with
  | nil => exact .nil
  | left _ ih => exact ih.right
  | right _ ih => exact ih.left

theorem sublist_left (h : Interleaved xs ys zs) : xs.Sublist zs := by
  induction h with
  | nil => exact List.Sublist.slnil
  | left _ ih => exact ih.cons_cons _
  | right _ ih => exact ih.cons _

end Interleaved

/-! ## 勘定 -/

section

variable {σ : Type} {R : String → Vec → Prop}

/-- 文書に対して提供元が返すベクトルは、どれも条件 `R` を満たすこと。 -/
structure Provider.Answers (p : Provider σ) (R : String → Vec → Prop) : Prop where
  embed : ∀ t s v s', p.embed t false s = (.ok v, s') → R t v
  batch : ∀ ts s vs s', p.embedBatch ts s = (.ok vs, s') →
    ∀ (i : Nat) t v, ts[i]? = some t → vs[i]? = some v → R t v

/-- どの提供元も、いつでも真の条件を満たす。 -/
theorem Provider.answers_anything (p : Provider σ) : p.Answers fun _ _ => True where
  embed := fun _ _ _ _ _ => trivial
  batch := fun _ _ _ _ _ _ _ _ _ _ => trivial

end

namespace Generation

variable {R : String → Vec → Prop} {normalizes segment : Bool} {g : Generation} {done : List Chunk}

/-- 断片に、条件 `R` を満たす空でないベクトルが仕上げて付いていること。 -/
def Carries (R : String → Vec → Prop) (normalizes segment : Bool) (dimensions : Option Nat)
    (c : Chunk) : Prop :=
  ∃ v, v ≠ [] ∧ dimensions = some v.length ∧ R (c.documentText segment) v
    ∧ c.vector = some (finish normalizes v)

/-- `done` の断片について勘定が合うこと。 -/
structure Accounts (R : String → Vec → Prop) (normalizes segment : Bool) (g : Generation)
    (done : List Chunk) : Prop where
  /-- どの断片も、埋め込めたか埋め込めなかったかのどちらか一方である。 -/
  interleaved : Interleaved (g.embedded.map Chunk.bare) (g.failed.map (·.chunk.bare))
    (done.map Chunk.bare)
  /-- 埋め込めた断片には、求めた長さのベクトルが付く。 -/
  carries : ∀ c ∈ g.embedded, Carries R normalizes segment g.dimensions c

@[simp] theorem length_finish (normalizes : Bool) (v : Vec) :
    (finish normalizes v).length = v.length := by
  unfold finish Vec.normalize
  simp only []
  split
  · split
    · exact List.length_map _
    · rfl
  · rfl

theorem accounts_start (R : String → Vec → Prop) (normalizes segment : Bool) (d : Option Nat) :
    Accounts R normalizes segment { dimensions := d } [] :=
  ⟨.nil, by simp⟩

/-- 受け取ってよいベクトルは空でなく、求める長さがあればその長さである。 -/
theorem check_eq_ok {expected : Option Nat} {v w : Vec} (h : check expected v = .ok w) :
    w = v ∧ v ≠ [] ∧ ∀ d, expected = some d → d = v.length := by
  unfold check at h
  split at h
  · cases h
  · next hne =>
    have hv : v ≠ [] := by simpa using hne
    split at h
    · cases h
      exact ⟨rfl, hv, by simp⟩
    · next d =>
      split at h
      · next hd =>
        cases h
        exact ⟨rfl, hv, by
          intro e he
          rw [← Option.some.inj he]
          exact hd⟩
      · cases h

/-- **一つ受け取るたびに、勘定は合ったままである。** -/
theorem Accounts.accept (h : Accounts R normalizes segment g done) (c : Chunk)
    (result : Except String Vec) (hr : ∀ v, result = .ok v → R (c.documentText segment) v) :
    Accounts R normalizes segment (g.accept normalizes c result) (done ++ [c]) := by
  unfold Generation.accept
  split
  · next v hv =>
    obtain ⟨w, hw, hcheck⟩ : ∃ w, result = .ok w ∧ check g.dimensions w = .ok v := by
      cases result with
      | error e => cases hv
      | ok w => exact ⟨w, rfl, hv⟩
    obtain ⟨rfl, hne, hdim⟩ := check_eq_ok hcheck
    refine ⟨?_, ?_⟩
    · rw [List.map_append, List.map_append, ← List.append_nil (g.failed.map _)]
      exact h.interleaved.append Interleaved.nil.left
    · intro x hx
      rcases List.mem_append.mp hx with hx | hx
      · obtain ⟨u, hu, hlen, hR, hvec⟩ := h.carries x hx
        exact ⟨u, hu, by rw [hdim u.length hlen], hR, hvec⟩
      · rw [List.mem_singleton.mp hx]
        exact ⟨v, hne, rfl, hr v hw, rfl⟩
  · refine ⟨?_, h.carries⟩
    rw [List.map_append, List.map_append, ← List.append_nil (g.embedded.map _)]
    exact h.interleaved.append Interleaved.nil.right

@[simp] theorem cancelled_accept (g : Generation) (c : Chunk) (result : Except String Vec) :
    (g.accept normalizes c result).cancelled = g.cancelled := by
  unfold Generation.accept
  split <;> rfl

/-- 束の結果を受け取っても、勘定は合ったままである。 -/
theorem Accounts.acceptAll : ∀ (cs : List Chunk) (vs : List Vec) {g : Generation}
    {done : List Chunk}, Accounts R normalizes segment g done →
    (∀ (i : Nat) c v, cs[i]? = some c → vs[i]? = some v → R (c.documentText segment) v) →
    Accounts R normalizes segment (g.acceptAll normalizes cs vs) (done ++ cs)
  | [], vs, g, done, h, _ => by
    rw [List.append_nil]
    cases vs <;> exact h
  | c :: cs, [], g, done, h, _ => by
    have hnext := h.accept c (.error "no vector returned") (by intro v hv; cases hv)
    have hall := Accounts.acceptAll cs [] hnext (by intro i x v _ hv; simp at hv)
    rwa [List.append_assoc] at hall
  | c :: cs, v :: vs, g, done, h, hr => by
    have hnext := h.accept c (.ok v) (by
      intro w hw
      cases hw
      exact hr 0 c v rfl rfl)
    have hall := Accounts.acceptAll cs vs hnext fun i x w hx hw => hr (i + 1) x w hx hw
    rwa [List.append_assoc] at hall

@[simp] theorem cancelled_acceptAll : ∀ (cs : List Chunk) (vs : List Vec) (g : Generation),
    (g.acceptAll normalizes cs vs).cancelled = g.cancelled
  | [], vs, g => by cases vs <;> rfl
  | c :: cs, [], g => by
    rw [Generation.acceptAll, cancelled_acceptAll cs [], cancelled_accept]
  | c :: cs, v :: vs, g => by
    rw [Generation.acceptAll, cancelled_acceptAll cs vs, cancelled_accept]

end Generation

namespace Embedding

variable {σ : Type} {p : Provider σ} {o : EmbeddingSettings} {R : String → Vec → Prop}

/-- 束が返したベクトルは、提供元がどれかの呼び出しで返したものである。 -/
theorem sendAgain_eq_ok {texts : List String} {vs : List Vec} {s' : Session σ} : ∀ {retries failures : Nat}
    {s : Session σ}, sendAgain p texts failures retries s = (.ok vs, s') →
    ∃ s₀, p.embedBatch texts s₀ = (.ok vs, s')
  | 0, _, s, h => ⟨s, h⟩
  | retries + 1, failures, s, h => by
    unfold sendAgain at h
    split at h
    · next heq =>
      cases h
      exact ⟨s, heq⟩
    · split at h
      · cases h
      · exact sendAgain_eq_ok h

/-- 一つずつ送っても、勘定は合ったままである。 -/
theorem embedItems_accounts (hp : p.Answers R) : ∀ {cs : List Chunk} {first : Bool}
    {g g' : Generation} {done : List Chunk} {s s' : Session σ},
    g.Accounts R p.normalizes o.segmentIdentifiers done →
    embedItems p o first g cs s = (.ok g', s') →
    g'.Accounts R p.normalizes o.segmentIdentifiers (done ++ cs) ∧ g'.cancelled = g.cancelled
  | [], _, g, g', done, s, s', h, heq => by
    cases heq
    rw [List.append_nil]
    exact ⟨h, rfl⟩
  | c :: cs, first, g, g', done, s, s', h, heq => by
    unfold embedItems at heq
    split at heq
    · next v _ hv =>
      have hnext := h.accept c (.ok v) (by
        intro w hw
        cases hw
        exact hp.embed _ _ _ _ hv)
      obtain ⟨hall, hcancel⟩ := embedItems_accounts hp hnext heq
      rw [List.append_assoc] at hall
      exact ⟨hall, hcancel.trans (Generation.cancelled_accept ..)⟩
    · next e _ _ =>
      split at heq
      · cases heq
      · have hnext := h.accept c (.error e.message) (by intro v hv; cases hv)
        obtain ⟨hall, hcancel⟩ := embedItems_accounts hp hnext heq
        rw [List.append_assoc] at hall
        exact ⟨hall, hcancel.trans (Generation.cancelled_accept ..)⟩

/-- 束を埋め込んでも、勘定は合ったままである。 -/
theorem embedChunks_accounts (hp : p.Answers R) {size size' : BatchSize} {batch done : List Chunk}
    {g g' : Generation} {s s' : Session σ}
    (h : g.Accounts R p.normalizes o.segmentIdentifiers done)
    (heq : embedChunks p o size g batch s = (.ok g', size', s')) :
    g'.Accounts R p.normalizes o.segmentIdentifiers (done ++ batch)
      ∧ g'.cancelled = g.cancelled := by
  unfold embedChunks at heq
  split at heq
  · next vs _ hsend =>
    cases heq
    obtain ⟨s₀, hbatch⟩ := sendAgain_eq_ok hsend
    refine ⟨Generation.Accounts.acceptAll batch vs h ?_, Generation.cancelled_acceptAll ..⟩
    intro i c v hc hv
    refine hp.batch _ _ _ _ hbatch i _ v ?_ hv
    rw [List.getElem?_map, hc]
    rfl
  · split at heq
    · cases heq
    · next s₁ _ _ =>
      cases hitems : embedItems p o true g batch s₁ with
      | mk result s₂ =>
        rw [hitems] at heq
        cases result with
        | error e => cases heq
        | ok g₁ =>
          cases heq
          exact embedItems_accounts hp h hitems

/-- 束をいくつ埋め込んでも、勘定は合ったままである。 -/
theorem Stage.Passes.accounts (hp : p.Answers R) {stop : Nat → Bool} {t u : Stage σ}
    {batches : List (List Chunk)} (h : Stage.Passes p o stop t batches u) {done : List Chunk}
    (hacc : t.generation.Accounts R p.normalizes o.segmentIdentifiers done) :
    u.generation.Accounts R p.normalizes o.segmentIdentifiers (done ++ batches.flatten)
      ∧ u.generation.cancelled = t.generation.cancelled := by
  induction h generalizing done with
  | refl t =>
    rw [List.flatten_nil, List.append_nil]
    exact ⟨hacc, rfl⟩
  | step hstep _ ih =>
    cases hstep with
    | embed _ _ hbatch =>
      obtain ⟨hnext, hcancel⟩ := embedChunks_accounts hp hacc hbatch
      obtain ⟨hall, hrest⟩ := ih hnext
      rw [List.append_assoc] at hall
      exact ⟨hall, hrest.trans hcancel⟩

section

variable {stop : Nat → Bool} {size : BatchSize} {chunks : List Chunk} {s : Session σ}
  {g : Generation}

/-- **成果が返れば、処理した束について勘定が合う。** 途中でやめたときに限り、断片が残る。 -/
theorem generate_batches (hp : p.Answers R) (h : (generate p o stop size chunks s).result = .ok g) :
    ∃ batches u, Stage.Passes p o stop (.start p size chunks s) batches u
      ∧ chunks = batches.flatten ++ u.remaining
      ∧ g.Accounts R p.normalizes o.segmentIdentifiers batches.flatten
      ∧ (g.cancelled = true ↔ u.remaining ≠ []) := by
  obtain ⟨batches, u, hpass, hend⟩ := generate_cases p o stop size chunks s
  have hstart : (Stage.start p size chunks s).generation.Accounts R p.normalizes
      o.segmentIdentifiers [] :=
    Generation.accounts_start R p.normalizes o.segmentIdentifiers p.dimensions
  obtain ⟨hacc, hcancel⟩ := hpass.accounts hp hstart
  rw [List.nil_append] at hacc
  refine ⟨batches, u, hpass, hpass.remaining_eq, ?_⟩
  cases hend with
  | finished hnil hres =>
    rw [h] at hres
    cases hres
    exact ⟨hacc, by simp [hcancel, hnil, Stage.start]⟩
  | stopped hne _ hres =>
    rw [h] at hres
    cases hres
    exact ⟨⟨hacc.interleaved, hacc.carries⟩, by simp [hne]⟩
  | failed e _ _ _ hres =>
    rw [h] at hres
    cases hres

/-- 成果が返れば、処理した前の部分について勘定が合う。途中でやめたときに限り、
後ろの部分が処理されずに残る。 -/
theorem generate_accounts (hp : p.Answers R) (h : (generate p o stop size chunks s).result = .ok g) :
    ∃ n ≤ chunks.length, g.Accounts R p.normalizes o.segmentIdentifiers (chunks.take n)
      ∧ (g.cancelled = true ↔ n < chunks.length) := by
  obtain ⟨batches, u, -, hchunks, hacc, hcancel⟩ := generate_batches hp h
  have hlen := congrArg List.length hchunks
  rw [List.length_append] at hlen
  refine ⟨batches.flatten.length, by omega, ?_, ?_⟩
  · rw [hchunks, List.take_left]
    exact hacc
  · rw [hcancel, ← List.length_pos_iff]
    omega

end

end Embedding

end CodeSearch
