import CodeSearch.Proofs.Embedding.Conservation

/-!
# 一回に付けたベクトルの長さはそろう

求める長さは成果の中を持ち回り、最初に受け取ったベクトルが決める。束で受け取っても一つずつ受け取っても
同じ列を前から読むので、結局、処理した断片のすべてを最後に決まった長さで判断したのと同じになる。

呼び出しの記録から読み取るのは、断片ごとの答えである。断られた束は断片に何も答えていないので、
一つずつ送り直したときの答えだけが残る。

* `Session.answers` — した呼び出しが答えた、文書ごとのこと
* `Generation.absorb_eq` — 順に受け取ることは、最後に決まった長さで一つずつ判断することである
* `Stage.Passes.received` — いくつの束を埋め込んでも、答えを断片の順に受け取っている
* `generate_vectors_agree` — 付けたベクトルの長さはそろい、そろわない断片は埋め込めなかった列にある
-/

namespace CodeSearch

variable {σ : Type}

/-! ## 文書ごとの答え -/

/-- `n` 個の文書の束への、文書ごとの答え。足りないベクトルは、返されなかったものとする。 -/
def replies : (n : Nat) → List Vec → List (Except String Vec)
  | 0, _ => []
  | n + 1, [] => .error "no vector returned" :: replies n []
  | n + 1, v :: vs => .ok v :: replies n vs

@[simp] theorem length_replies : ∀ (n : Nat) (vs : List Vec), (replies n vs).length = n
  | 0, _ => rfl
  | n + 1, [] => congrArg (· + 1) (length_replies n [])
  | n + 1, _ :: vs => congrArg (· + 1) (length_replies n vs)

/-- 呼び出しが、文書の一つ一つについて答えたこと。断られた束は何も答えていない。 -/
def Call.answered : Call → List (String × Except String Vec)
  | .embed _ text false answer => [(text, answer.mapError Error.message)]
  | .embedBatch _ texts (.ok vs) => texts.zip (replies texts.length vs)
  | _ => []

namespace Session

/-- した呼び出しが答えた、文書ごとのこと。 -/
def answers (s : Session (Recorded σ)) : List (String × Except String Vec) :=
  s.calls.flatMap Call.answered

@[simp] theorem answers_recording (s : Session σ) : s.recording.answers = [] := rfl

@[simp] theorem answers_pause (s : Session (Recorded σ)) (millis : Nat) :
    (s.pause millis).answers = s.answers := by
  unfold answers
  rw [calls_pause]

@[simp] theorem answers_ite_pause (c : Prop) [Decidable c] (s : Session (Recorded σ))
    (millis : Nat) : (if c then s else s.pause millis).answers = s.answers := by
  unfold answers
  rw [calls_ite_pause]

end Session

section

variable {p : Provider σ} {s t : Session (Recorded σ)}

theorem Provider.answers_embed {text : String} {answer : Except Error Vec}
    (h : p.recorded.embed text false s = (answer, t)) :
    t.answers = s.answers ++ [(text, answer.mapError Error.message)] := by
  unfold Session.answers
  rw [(Provider.embed_recorded h).2, List.flatMap_append, List.flatMap_singleton]
  rfl

theorem Provider.answers_embedBatch_ok {texts : List String} {vs : List Vec}
    (h : p.recorded.embedBatch texts s = (.ok vs, t)) :
    t.answers = s.answers ++ texts.zip (replies texts.length vs) := by
  unfold Session.answers
  rw [(Provider.embedBatch_recorded h).2, List.flatMap_append, List.flatMap_singleton]
  rfl

theorem Provider.answers_embedBatch_error {texts : List String} {e : Error}
    (h : p.recorded.embedBatch texts s = (.error e, t)) : t.answers = s.answers := by
  unfold Session.answers
  rw [(Provider.embedBatch_recorded h).2, List.flatMap_append, List.flatMap_singleton]
  exact List.append_nil _

end

/-! ## 最後に決まった長さで判断する -/

namespace Generation

/-- 空でないベクトルの長さ。 -/
def lengthOf? : Except String Vec → Option Nat
  | .ok v => if v.isEmpty then none else some v.length
  | .error _ => none

/-- そろえる長さ。前もって決まっていなければ、最初の空でないベクトルの長さである。 -/
def agreed (declared : Option Nat) (answers : List (Except String Vec)) : Option Nat :=
  declared.or (answers.findSome? lengthOf?)

/-- 長さ `d` を求めたときに受け取る断片。 -/
def accepted (normalizes : Bool) (d : Option Nat) (i : Chunk × Except String Vec) : Option Chunk :=
  match i.2.bind (check d) with
  | .ok v => some { i.1 with vector := some (finish normalizes v) }
  | .error _ => none

/-- 長さ `d` を求めたときに受け取らない断片。 -/
def rejected (d : Option Nat) (i : Chunk × Except String Vec) : Option FailedChunk :=
  match i.2.bind (check d) with
  | .ok _ => none
  | .error reason => some { chunk := i.1, reason }

/-- 断片ごとの答えを順に受け取る。 -/
def absorb (normalizes : Bool) (g : Generation) (items : List (Chunk × Except String Vec)) :
    Generation :=
  items.foldl (fun g i => g.accept normalizes i.1 i.2) g

variable {normalizes : Bool} {g : Generation} {d : Option Nat} {v : Vec}

theorem acceptAll_eq_absorb : ∀ (cs : List Chunk) (vs : List Vec) (g : Generation),
    g.acceptAll normalizes cs vs = g.absorb normalizes (cs.zip (replies cs.length vs))
  | [], vs, g => by cases vs <;> rfl
  | c :: cs, [], g => acceptAll_eq_absorb cs [] (g.accept normalizes c _)
  | c :: cs, v :: vs, g => acceptAll_eq_absorb cs vs (g.accept normalizes c (.ok v))

theorem check_of_isEmpty (h : v.isEmpty = true) (d : Option Nat) :
    check d v = .error "provider returned an empty vector" := by
  unfold check
  rw [if_pos h]

theorem check_length (h : v.isEmpty = false) : check (some v.length) v = .ok v := by
  unfold check
  rw [if_neg (by simp [h])]
  exact if_pos rfl

theorem check_none (h : v.isEmpty = false) : check none v = .ok v := by
  unfold check
  rw [if_neg (by simp [h])]

/-- **先頭の答えは、そのときまでの長さで判断しても、最後に決まる長さで判断しても同じである。** -/
theorem check_agreed (answer : Except String Vec) (answers : List (Except String Vec)) :
    answer.bind (check d) = answer.bind (check (agreed d (answer :: answers))) := by
  cases d with
  | some d => rfl
  | none =>
    cases answer with
    | error e => rfl
    | ok v =>
      show check none v = check ((Except.ok v :: answers).findSome? lengthOf?) v
      by_cases hv : v.isEmpty = true
      · rw [check_of_isEmpty hv, check_of_isEmpty hv]
      · rw [Bool.not_eq_true] at hv
        -- 長さが決まっていなければ、空でない先頭のベクトルが決める
        have hhead : (Except.ok v :: answers).findSome? lengthOf? = some v.length := by
          rw [List.findSome?_cons, lengthOf?, hv]
          rfl
        rw [hhead, check_none hv, check_length hv]

theorem agreed_agreed (answer : Except String Vec) (answers : List (Except String Vec)) :
    agreed (agreed d [answer]) answers = agreed d (answer :: answers) := by
  unfold agreed
  rw [Option.or_assoc, ← List.findSome?_append]
  rfl

/-- 一つ受け取った後の、求める長さ。 -/
theorem dimensions_accept (g : Generation) (c : Chunk) (answer : Except String Vec) :
    (g.accept normalizes c answer).dimensions = agreed g.dimensions [answer] := by
  unfold accept agreed
  cases answer with
  | error e => simp [Except.bind, lengthOf?]
  | ok v =>
    by_cases hv : v.isEmpty = true
    · simp [Except.bind, check_of_isEmpty hv, lengthOf?, hv]
    · rw [Bool.not_eq_true] at hv
      cases hd : g.dimensions with
      | none => simp [Except.bind, check_none hv, lengthOf?, hv]
      | some d =>
        -- 長さが決まっていれば、受け取っても受け取らなくても変わらない
        simp only [Except.bind, Option.some_or]
        split
        · next w hw =>
          obtain ⟨rfl, -, hlen⟩ := check_eq_ok hw
          rw [hlen d rfl]
        · rfl

/-- 一つ受け取ると、受け取る列か受け取らない列のどちらかに加わる。 -/
theorem accept_eq (g : Generation) (c : Chunk) (answer : Except String Vec) :
    g.accept normalizes c answer =
      { g with
        embedded := g.embedded ++ (accepted normalizes g.dimensions (c, answer)).toList
        failed := g.failed ++ (rejected g.dimensions (c, answer)).toList
        dimensions := agreed g.dimensions [answer] } := by
  rw [← @dimensions_accept normalizes g c answer]
  unfold accept accepted rejected
  cases answer.bind (check g.dimensions) <;> simp

/-- **順に受け取ることは、最後に決まった長さで一つずつ判断することである。** -/
theorem absorb_eq : ∀ (items : List (Chunk × Except String Vec)) (g : Generation),
    g.absorb normalizes items =
      { g with
        embedded := g.embedded
          ++ items.filterMap (accepted normalizes (agreed g.dimensions (items.map (·.2))))
        failed := g.failed ++ items.filterMap (rejected (agreed g.dimensions (items.map (·.2))))
        dimensions := agreed g.dimensions (items.map (·.2)) }
  | [], g => by
    show g = _
    simp [agreed]
  | (c, answer) :: items, g => by
    have hcheck := @check_agreed g.dimensions answer (items.map (·.2))
    have haccepted : accepted normalizes g.dimensions (c, answer)
        = accepted normalizes (agreed g.dimensions (answer :: items.map (·.2))) (c, answer) := by
      unfold accepted
      rw [hcheck]
    have hrejected : rejected g.dimensions (c, answer)
        = rejected (agreed g.dimensions (answer :: items.map (·.2))) (c, answer) := by
      unfold rejected
      rw [hcheck]
    show (g.accept normalizes c answer).absorb normalizes items = _
    rw [absorb_eq items, accept_eq, agreed_agreed, haccepted, hrejected]
    simp only [List.filterMap_eq_flatMap_toList, List.map_cons, List.flatMap_cons,
      List.append_assoc]

/-! ### そろえる長さ -/

section

variable {declared : Option Nat} {answers : List (Except String Vec)} {c : Chunk}
  {items : List (Chunk × Except String Vec)}

/-- 答えの中のベクトルのうち受け取ってよいのは、そろえる長さの空でないものである。 -/
theorem length_of_check {w : Vec} (hv : .ok v ∈ answers)
    (h : check (agreed declared answers) v = .ok w) :
    w = v ∧ v ≠ [] ∧ agreed declared answers = some v.length := by
  obtain ⟨rfl, hne, hlen⟩ := check_eq_ok h
  refine ⟨rfl, hne, ?_⟩
  cases hd : agreed declared answers with
  | some d => rw [hlen d hd]
  | none =>
    -- 空でないベクトルがあれば、長さは決まっている
    have hnone := (Option.or_eq_none_iff.mp hd).2
    have hw := List.findSome?_eq_none_iff.mp hnone _ hv
    rw [lengthOf?, if_neg (by simpa using hne)] at hw
    cases hw

/-- 受け取った断片には、そろえる長さのベクトルが付く。 -/
theorem vector_of_mem_accepted (hitems : items.map (·.2) = answers)
    (h : c ∈ items.filterMap (accepted normalizes (agreed declared answers))) :
    ∃ v, c.vector = some v ∧ v ≠ [] ∧ agreed declared answers = some v.length := by
  obtain ⟨⟨c', answer⟩, hi, hc⟩ := List.mem_filterMap.mp h
  have hanswer : answer ∈ answers := hitems ▸ List.mem_map_of_mem hi
  unfold accepted at hc
  split at hc
  · next v hv =>
    cases hc
    cases answer with
    | error e => cases hv
    | ok w =>
      obtain ⟨rfl, hne, hlen⟩ := length_of_check hanswer hv
      refine ⟨finish normalizes v, rfl, ?_, ?_⟩
      · rwa [← List.length_pos_iff, length_finish, List.length_pos_iff]
      · rw [length_finish, hlen]
  · cases hc

/-- 答えがそろえる長さのベクトルでなければ、断片は受け取らない列にある。 -/
theorem mem_rejected {answer : Except String Vec} (hitems : items.map (·.2) = answers)
    (hi : (c, answer) ∈ items)
    (hodd : ∀ v, answer = .ok v → v = [] ∨ agreed declared answers ≠ some v.length) :
    ∃ reason, { chunk := c, reason } ∈ items.filterMap (rejected (agreed declared answers)) := by
  have hanswer : answer ∈ answers := hitems ▸ List.mem_map_of_mem hi
  cases hv : answer.bind (check (agreed declared answers)) with
  | error reason =>
    refine ⟨reason, List.mem_filterMap.mpr ⟨(c, answer), hi, ?_⟩⟩
    unfold rejected
    rw [hv]
  | ok w =>
    exfalso
    cases answer with
    | error e => cases hv
    | ok v =>
      obtain ⟨-, hne, hlen⟩ := length_of_check hanswer hv
      rcases hodd v rfl with hnil | hother
      · exact hne hnil
      · exact hother hlen

end

end Generation

namespace Embedding

variable {p : Provider σ} {o : EmbeddingSettings}

/-! ## 埋め込む間の答え -/

/-- 断片 `cs` を埋め込む間に呼び出しが答えたのは、断片の順に `answers` であり、
それを順に受け取って `g` から `g'` になったこと。 -/
structure Received (normalizes segment : Bool) (cs : List Chunk)
    (answers : List (Except String Vec)) (g g' : Generation) (s t : Session (Recorded σ)) :
    Prop where
  length_eq : answers.length = cs.length
  answers_eq : t.answers = s.answers ++ (cs.map (·.documentText segment)).zip answers
  generation_eq : g' = g.absorb normalizes (cs.zip answers)

namespace Received

variable {normalizes segment : Bool} {cs cs' : List Chunk}
  {answers answers' : List (Except String Vec)} {g g' g'' : Generation}
  {s t u : Session (Recorded σ)}

theorem refl (h : t.answers = s.answers) : Received normalizes segment [] [] g g s t :=
  ⟨rfl, by rw [h]; exact (List.append_nil _).symm, rfl⟩

theorem append (h : Received normalizes segment cs answers g g' s t)
    (h' : Received normalizes segment cs' answers' g' g'' t u) :
    Received normalizes segment (cs ++ cs') (answers ++ answers') g g'' s u where
  length_eq := by rw [List.length_append, List.length_append, h.length_eq, h'.length_eq]
  answers_eq := by
    rw [h'.answers_eq, h.answers_eq, List.append_assoc, List.map_append,
      List.zip_append (by rw [List.length_map, h.length_eq])]
  generation_eq := by
    rw [h'.generation_eq, h.generation_eq, List.zip_append h.length_eq.symm]
    unfold Generation.absorb
    rw [List.foldl_append]

/-- 一つの断片の答えを受け取る。 -/
theorem single {c : Chunk} {answer : Except String Vec}
    (h : t.answers = s.answers ++ [(c.documentText segment, answer)]) :
    Received normalizes segment [c] [answer] g (g.accept normalizes c answer) s t :=
  ⟨rfl, h, rfl⟩

end Received

/-- 束の答えになるのは、最後に送ったときに返ったベクトルである。 -/
theorem answers_sendAgain {texts : List String} {answer : Except Error (List Vec)}
    {t : Session (Recorded σ)} : ∀ {retries failures : Nat} {s : Session (Recorded σ)},
    sendAgain p.recorded texts failures retries s = (answer, t) →
    t.answers = s.answers ++ match answer with
      | .ok vs => texts.zip (replies texts.length vs)
      | .error _ => []
  | 0, _, s, h => by
    cases answer with
    | ok vs => exact Provider.answers_embedBatch_ok h
    | error e => exact (Provider.answers_embedBatch_error h).trans (List.append_nil _).symm
  | retries + 1, failures, s, h => by
    unfold sendAgain at h
    split at h
    · next vs s' heq =>
      cases h
      exact Provider.answers_embedBatch_ok heq
    · next e s' heq =>
      have hone := Provider.answers_embedBatch_error heq
      split at h
      · cases h
        exact hone.trans (List.append_nil _).symm
      · -- 断られた束は何も答えていないので、送り直した束の答えだけが加わる
        have hrest := answers_sendAgain h
        rwa [Session.answers_pause, hone] at hrest

theorem received_embedItems {g' : Generation} {t : Session (Recorded σ)} :
    ∀ {cs : List Chunk} {first : Bool} {g : Generation} {s : Session (Recorded σ)},
    embedItems p.recorded o first g cs s = (.ok g', t) →
    ∃ answers, Received p.normalizes o.segmentIdentifiers cs answers g g' s t
  | [], _, _, s, h => by
    cases h
    exact ⟨[], .refl rfl⟩
  | c :: cs, first, g, s, h => by
    unfold embedItems at h
    split at h
    · next v s' heq =>
      have hone := Provider.answers_embed heq
      rw [Session.answers_ite_pause] at hone
      obtain ⟨answers, hrest⟩ := received_embedItems h
      exact ⟨_, (Received.single hone).append hrest⟩
    · next e s' heq =>
      have hone := Provider.answers_embed heq
      rw [Session.answers_ite_pause] at hone
      split at h
      · cases h
      · obtain ⟨answers, hrest⟩ := received_embedItems h
        exact ⟨_, (Received.single hone).append hrest⟩

/-- 束を埋め込むと、断片の一つ一つへの答えを順に受け取る。束が断られたかによらない。 -/
theorem received_embedChunks {size size' : BatchSize} {g g' : Generation} {batch : List Chunk}
    {s t : Session (Recorded σ)}
    (h : embedChunks p.recorded o size g batch s = (.ok g', size', t)) :
    ∃ answers, Received p.normalizes o.segmentIdentifiers batch answers g g' s t := by
  unfold embedChunks at h
  split at h
  · next vs s' hsend =>
    cases h
    refine ⟨replies batch.length vs, length_replies _ _, ?_, Generation.acceptAll_eq_absorb _ _ _⟩
    have hanswers := answers_sendAgain hsend
    rwa [List.length_map] at hanswers
  · next e s' hsend =>
    split at h
    · cases h
    · have hsent : s'.answers = s.answers := by simpa using answers_sendAgain hsend
      cases hitems : embedItems p.recorded o true g batch s' with
      | mk result u =>
        rw [hitems] at h
        cases result with
        | error e' => cases h
        | ok g₁ =>
          cases h
          obtain ⟨answers, hrest⟩ := received_embedItems hitems
          exact ⟨answers, (Received.refl hsent).append hrest⟩

/-- **いくつの束を埋め込んでも、断片の一つ一つへの答えを順に受け取っている。** -/
theorem Stage.Passes.received {stop : Nat → Bool} {t u : Stage (Recorded σ)}
    {batches : List (List Chunk)} (h : Stage.Passes p.recorded o stop t batches u) :
    ∃ answers, Received p.normalizes o.segmentIdentifiers batches.flatten answers
      t.generation u.generation t.session u.session := by
  induction h with
  | refl t => exact ⟨[], .refl rfl⟩
  | @step t u v batches hstep _ ih =>
    cases hstep with
    | embed _ _ hbatch =>
      obtain ⟨answers, hrest⟩ := ih
      obtain ⟨answers₀, hone⟩ := received_embedChunks hbatch
      have hpause := Session.answers_ite_pause (t.done = 0) t.session o.batchDelay
      exact ⟨_, ((Received.refl hpause).append hone).append hrest⟩

/-- 成果が返れば、処理した前の部分への答えを順に受け取っている。 -/
theorem received_generate {stop : Nat → Bool} {size : BatchSize} {chunks : List Chunk}
    {s : Session (Recorded σ)} {g : Generation}
    (h : (generate p.recorded o stop size chunks s).result = .ok g) :
    ∃ n ≤ chunks.length, (g.cancelled = true ↔ n < chunks.length)
      ∧ ∃ answers g', Received p.normalizes o.segmentIdentifiers (chunks.take n) answers
          { dimensions := p.dimensions } g' s (generate p.recorded o stop size chunks s).session
        ∧ g = { g' with cancelled := g.cancelled } := by
  obtain ⟨batches, u, hpass, hend⟩ := generate_cases p.recorded o stop size chunks s
  have hchunks : chunks = batches.flatten ++ u.remaining := hpass.remaining_eq
  have hlen := congrArg List.length hchunks
  rw [List.length_append] at hlen
  obtain ⟨answers, hrec⟩ := hpass.received
  have hgo : u.generation.cancelled = false := by
    rw [hrec.generation_eq, Generation.absorb_eq]
    rfl
  have htake : chunks.take batches.flatten.length = batches.flatten := by
    rw [hchunks, List.take_left]
  refine ⟨batches.flatten.length, by omega, ?_⟩
  rw [htake]
  cases hend with
  | finished hnil hres _ hs =>
    rw [h] at hres
    cases hres
    rw [hnil, List.length_nil] at hlen
    refine ⟨by rw [hgo]; simp [hlen], answers, u.generation, ?_, rfl⟩
    rw [hs]
    exact hrec
  | stopped hne _ hres _ hs =>
    rw [h] at hres
    cases hres
    have hpos := List.length_pos_iff.mpr hne
    refine ⟨iff_of_true rfl (by omega), answers, u.generation, ?_, rfl⟩
    rw [hs]
    exact hrec
  | failed e _ _ _ hres =>
    rw [h] at hres
    cases hres

/--
**一回に付けたベクトルの長さはそろう。**

成果が返れば、処理した `n` 個の断片には一つずつ答えがあり、それは提供元への呼び出しが答えたものである
（呼び出しを書き留めても、経過は変わらない）。

* そろえる長さ `g.dimensions` は、提供元が前もって決めていればその長さ、決めていなければ最初の
  空でないベクトルの長さである。
* 埋め込めた断片には、どれもその長さの、空でないベクトルが付く。
* ベクトルが返らないか、空か、ほかの長さなら、その断片は埋め込めなかった列にある。二つの列は、
  答えをその長さで一つずつ判断したものにちょうど等しい。
-/
theorem generate_vectors_agree (p : Provider σ) (o : EmbeddingSettings) (stop : Nat → Bool)
    (size : BatchSize) (chunks : List Chunk) (s : Session σ) :
    (generate p.recorded o stop size chunks s.recording).forget = generate p o stop size chunks s
    ∧ ∀ g, (generate p o stop size chunks s).result = .ok g →
      ∃ n ≤ chunks.length, (g.cancelled = true ↔ n < chunks.length)
        ∧ ∃ answers : List (Except String Vec), answers.length = n
          ∧ (generate p.recorded o stop size chunks s.recording).session.answers
            = ((chunks.take n).map (·.documentText o.segmentIdentifiers)).zip answers
          ∧ g.dimensions = Generation.agreed p.dimensions answers
          ∧ (∀ m, p.dimensions = some m → g.dimensions = some m)
          ∧ (∀ c ∈ g.embedded, ∃ v, c.vector = some v ∧ v ≠ [] ∧ g.dimensions = some v.length)
          ∧ g.embedded = ((chunks.take n).zip answers).filterMap
              (Generation.accepted p.normalizes g.dimensions)
          ∧ g.failed = ((chunks.take n).zip answers).filterMap (Generation.rejected g.dimensions)
          ∧ ∀ c answer, (c, answer) ∈ (chunks.take n).zip answers →
            (∀ v, answer = .ok v → v = [] ∨ g.dimensions ≠ some v.length) →
            ∃ reason, { chunk := c, reason } ∈ g.failed := by
  have hforget := forget_generate p o stop size chunks s.recording
  refine ⟨hforget, fun g hg => ?_⟩
  have hresult : (generate p.recorded o stop size chunks s.recording).result = .ok g :=
    (congrArg Run.result hforget).trans hg
  obtain ⟨n, hn, hcancel, answers, g', hrec, heq⟩ := received_generate hresult
  have hlen : answers.length = n := by
    rw [hrec.length_eq, List.length_take, Nat.min_eq_left hn]
  have hanswers : ((chunks.take n).zip answers).map (·.2) = answers :=
    List.map_snd_zip (Nat.le_of_eq hrec.length_eq)
  have habsorb := hrec.generation_eq
  rw [Generation.absorb_eq, hanswers] at habsorb
  rw [habsorb] at heq
  have hdim : g.dimensions = Generation.agreed p.dimensions answers :=
    congrArg Generation.dimensions heq
  have hembedded : g.embedded = ((chunks.take n).zip answers).filterMap
      (Generation.accepted p.normalizes g.dimensions) := by
    rw [hdim]
    exact congrArg Generation.embedded heq
  have hfailed : g.failed = ((chunks.take n).zip answers).filterMap
      (Generation.rejected g.dimensions) := by
    rw [hdim]
    exact congrArg Generation.failed heq
  refine ⟨n, hn, hcancel, answers, hlen, ?_, hdim, ?_, ?_, hembedded, hfailed, ?_⟩
  · rw [hrec.answers_eq, Session.answers_recording, List.nil_append]
  · intro m hm
    rw [hdim, hm]
    rfl
  · intro c hc
    rw [hembedded, hdim] at hc
    rw [hdim]
    exact Generation.vector_of_mem_accepted hanswers hc
  · intro c answer hi hodd
    rw [hdim] at hodd
    rw [hfailed, hdim]
    exact Generation.mem_rejected hanswers hi hodd

/-! ### 長さのそろわない提供元 -/

/-- 文書によって、空のベクトルも、長さの違うベクトルも返す。 -/
def uneven (text : String) : Except Error Vec :=
  match text.toList.getLast? with
  | some 'a' => .ok []
  | some 'd' => .ok [1.0, 0.0, 0.0]
  | some '?' => .error (.embedding "not a statement")
  | _ => .ok [0.0, 1.0]

/-- 束を断られて一つずつ送った断片と、束で送った断片とで、長さはそろう。空のベクトルの断片は長さを
決めず、長さの違う断片と同じく、埋め込めなかった列に入る。 -/
theorem generate_vectors_agree_uneven :
    ∃ g, (generate (reluctant uneven) { maxRetries := 1 } (fun _ => false) (.ofNat 4) remarks
        { peer := 1 }).result = .ok g
      ∧ g.dimensions = some 2
      ∧ g.embedded.map (·.text) = ["b", "e", "f"]
      ∧ g.failed.map (·.reason) = ["provider returned an empty vector",
        "embedding error: not a statement", "expected 2 dimensions, got 3"]
      ∧ ∀ c ∈ g.embedded, ∃ v, c.vector = some v ∧ v ≠ [] ∧ g.dimensions = some v.length := by
  have hread : (generate (reluctant uneven) { maxRetries := 1 } (fun _ => false) (.ofNat 4) remarks
      { peer := 1 }).result.toOption.map
      (fun g => (g.dimensions, g.embedded.map (·.text), g.failed.map (·.reason)))
      = some (some 2, ["b", "e", "f"], ["provider returned an empty vector",
        "embedding error: not a statement", "expected 2 dimensions, got 3"]) := by
    decide +kernel
  cases hrun : (generate (reluctant uneven) { maxRetries := 1 } (fun _ => false) (.ofNat 4) remarks
      { peer := 1 }).result with
  | error e =>
    rw [hrun] at hread
    cases hread
  | ok g =>
    rw [hrun] at hread
    obtain ⟨hdim, hlists⟩ := Prod.mk.inj (Option.some.inj hread)
    obtain ⟨hembedded, hfailed⟩ := Prod.mk.inj hlists
    obtain ⟨n, -, -, answers, -, -, -, -, hvectors, -⟩ := (generate_vectors_agree
      (reluctant uneven) { maxRetries := 1 } (fun _ => false) (.ofNat 4) remarks
      { peer := 1 }).2 g hrun
    exact ⟨g, rfl, hdim, hembedded, hfailed, hvectors⟩

end Embedding

end CodeSearch
