import CodeSearch.Proofs.Embedding.Conservation
import Mathlib.Algebra.BigOperators.Group.Finset.Basic
import Mathlib.Algebra.Order.Ring.Nat

/-!
# 束を送り直す時刻

束は、成果か致命的な失敗が返るまで、決めた回数だけ送り直す。断られるたびに休みを倍にし、
2¹⁶ 秒で頭打ちにする。最後の答えの後には休まない。

提供元の答えの列は、断られ続けたとしたときの `i` 回めの答え `reply p texts s i` で表す（0 から数える）。
どの提供元にも、この列がただ一つある。

* `sendAgain_eq` — 送り直すことは、列の中で最初に送り直さなくてよい答えまで進むことである
* `calls_retried` — その間にした呼び出しは、同じ文書の束だけである
* `now_retried` — 呼び出しに時間がかからなければ、時刻は休みの和だけ進む
* `send_follows_schedule` — 以上をまとめたもの
-/

namespace CodeSearch

/-- 一秒のナノ秒。 -/
def nanosPerSecond : Nat := 1000 * nanosPerMilli

/-- 続けて眠ることは、ミリ秒の倍数の後のほうを足して一度に眠ることである。 -/
theorem wakeAt_wakeAt (now wait millis : Nat) :
    wakeAt (wakeAt now wait) (millis * nanosPerMilli) = wakeAt now (wait + millis * nanosPerMilli) := by
  unfold wakeAt nanosPerMilli
  omega

/-- ミリ秒の境から、ミリ秒の倍数だけ眠れば、ちょうどに起きる。 -/
theorem wakeAt_of_dvd {now : Nat} (h : nanosPerMilli ∣ now) (millis : Nat) :
    wakeAt now (millis * nanosPerMilli) = now + millis * nanosPerMilli := by
  obtain ⟨k, rfl⟩ := h
  unfold wakeAt nanosPerMilli
  omega

namespace Embedding

variable {σ : Type} {p : Provider σ} {texts : List String} {s : Session σ}

/-! ## 提供元の答えの列 -/

/-- 送り直さなくてよい答えか。成果か、致命的な失敗である。 -/
def settles : Except Error (List Vec) → Bool
  | .ok _ => true
  | .error e => e.isFatal

/-- `i` 回続けて断られ、そのたびに休んだ後のやりとり。 -/
def retried (p : Provider σ) (texts : List String) (s : Session σ) : Nat → Session σ
  | 0 => s
  | i + 1 => (p.embedBatch texts (retried p texts s i)).2.pause (backoff (i + 1) * 1000)

/-- 断られ続けたとしたときの、`i` 回めの答え。0 から数える。 -/
def reply (p : Provider σ) (texts : List String) (s : Session σ) (i : Nat) :
    Except Error (List Vec) :=
  (p.embedBatch texts (retried p texts s i)).1

/-- 最初の `i` 回の休みの和。秒で数える。 -/
def delay (i : Nat) : Nat := ∑ l ∈ Finset.range i, 2 ^ min l 16

/-- 送り直さなくてよい答えなら、それを返す。 -/
theorem sendAgain_of_settles (failures : Nat) :
    ∀ retries, settles (p.embedBatch texts s).1 = true →
      sendAgain p texts failures retries s = p.embedBatch texts s
  | 0, _ => rfl
  | retries + 1, h => by
    unfold sendAgain
    cases hask : p.embedBatch texts s with
    | mk answer t =>
      rw [hask] at h
      cases answer with
      | ok vs => rfl
      | error e => exact if_pos h

/-- 断られたら、休んで送り直す。 -/
theorem sendAgain_of_refused (failures retries : Nat)
    (h : settles (p.embedBatch texts s).1 = false) :
    sendAgain p texts failures (retries + 1) s
      = sendAgain p texts (failures + 1) retries
          ((p.embedBatch texts s).2.pause (backoff (failures + 1) * 1000)) := by
  rw [sendAgain]
  cases hask : p.embedBatch texts s with
  | mk answer t =>
    rw [hask] at h
    cases answer with
    | ok vs => cases h
    | error e => exact if_neg (Bool.eq_false_iff.mp h)

/-- **送り直すことは、最初に送り直さなくてよい答えまで、列を進むことである。**
そのような答えがなければ、最後まで進む。 -/
theorem sendAgain_eq (p : Provider σ) (texts : List String) (s : Session σ) :
    ∀ retries i, ∃ j, i ≤ j ∧ j ≤ i + retries
      ∧ sendAgain p texts i retries (retried p texts s i) = p.embedBatch texts (retried p texts s j)
      ∧ (∀ k, i ≤ k → k < j → settles (reply p texts s k) = false)
      ∧ (settles (reply p texts s j) = true ∨ j = i + retries)
  | 0, i => by
    refine ⟨i, Nat.le_refl i, Nat.le_refl i, rfl, ?_, Or.inr rfl⟩
    intro k hik hki
    omega
  | retries + 1, i => by
    by_cases hstop : settles (reply p texts s i) = true
    · refine ⟨i, Nat.le_refl i, by omega, sendAgain_of_settles i _ hstop, ?_, Or.inl hstop⟩
      intro k hik hki
      omega
    · rw [Bool.not_eq_true] at hstop
      obtain ⟨j, hij, hj, heq, hbefore, hlast⟩ := sendAgain_eq p texts s retries (i + 1)
      refine ⟨j, by omega, by omega, ?_, ?_, ?_⟩
      · rw [sendAgain_of_refused i retries hstop]
        exact heq
      · intro k hik hkj
        by_cases hki : k = i
        · rw [hki]
          exact hstop
        · exact hbefore k (by omega) hkj
      · rcases hlast with hsettled | hend
        · exact Or.inl hsettled
        · exact Or.inr (by omega)

/-! ## その間の呼び出し -/

section

variable {u : Session (Recorded σ)}

/-- 記録しながら断られ続けても、忘れれば同じである。 -/
theorem forget_retried (p : Provider σ) (texts : List String) (u : Session (Recorded σ)) :
    ∀ i, (retried p.recorded texts u i).forget = retried p texts u.forget i
  | 0 => rfl
  | i + 1 => by
    rw [retried, retried, Session.forget_pause, ← forget_retried p texts u i]
    rfl

theorem reply_recorded (p : Provider σ) (texts : List String) (u : Session (Recorded σ)) (i : Nat) :
    reply p.recorded texts u i = reply p texts u.forget i := by
  unfold reply
  rw [← forget_retried]
  rfl

/-- 列の `i` 回めの呼び出し。 -/
def nthCall (p : Provider σ) (texts : List String) (s : Session σ) (i : Nat) : Call :=
  .embedBatch (retried p texts s i).now texts (reply p texts s i)

/-- もう一度送ると、呼び出しが一つ加わる。 -/
theorem calls_embedBatch_retried (i : Nat)
    (h : (retried p.recorded texts u i).calls
      = u.calls ++ (List.range i).map (nthCall p texts u.forget)) :
    (p.recorded.embedBatch texts (retried p.recorded texts u i)).2.calls
      = u.calls ++ (List.range (i + 1)).map (nthCall p texts u.forget) := by
  have hreply : (p.recorded.embedBatch texts (retried p.recorded texts u i)).1
      = reply p texts u.forget i := reply_recorded p texts u i
  have hnow : (retried p.recorded texts u i).now = (retried p texts u.forget i).now :=
    congrArg Session.now (forget_retried p texts u i)
  cases hask : p.recorded.embedBatch texts (retried p.recorded texts u i) with
  | mk answer t =>
    have hanswer : answer = reply p texts u.forget i := by rwa [hask] at hreply
    rw [(Provider.embedBatch_recorded hask).2, h, List.range_succ, List.map_append,
      List.append_assoc, List.map_singleton, nthCall, hnow, hanswer]

/-- **断られ続ける間の呼び出しは、同じ文書の束だけである。** -/
theorem calls_retried (p : Provider σ) (texts : List String) (u : Session (Recorded σ)) :
    ∀ i, (retried p.recorded texts u i).calls
      = u.calls ++ (List.range i).map (nthCall p texts u.forget)
  | 0 => (List.append_nil _).symm
  | i + 1 => by
    rw [retried, Session.calls_pause]
    exact calls_embedBatch_retried i (calls_retried p texts u i)

end

/-! ## 時刻 -/

theorem delay_succ (i : Nat) : delay (i + 1) = delay i + backoff (i + 1) :=
  Finset.sum_range_succ _ i

theorem backoff_ne_zero (failures : Nat) : backoff failures ≠ 0 :=
  Nat.ne_of_gt (Nat.two_pow_pos _)

/-- 呼び出しに時間がかからなければ、次の呼び出しまでの時間は休みだけである。 -/
theorem now_retried_succ (h : ∀ t, (p.embedBatch texts t).2.now = t.now) (i : Nat) :
    (retried p texts s (i + 1)).now
      = wakeAt (retried p texts s i).now (backoff (i + 1) * nanosPerSecond) := by
  have hpause : backoff (i + 1) * 1000 ≠ 0 := Nat.mul_ne_zero (backoff_ne_zero _) (by decide)
  rw [retried]
  unfold Session.pause nanosPerSecond
  rw [if_neg hpause]
  simp only []
  rw [h, Nat.mul_assoc]

/-- **呼び出しに時間がかからなければ、時刻は休みの和だけ進む。** 時計はミリ秒の境で起きる。 -/
theorem now_retried (h : ∀ t, (p.embedBatch texts t).2.now = t.now) : ∀ i,
    (retried p texts s (i + 1)).now = wakeAt s.now (delay (i + 1) * nanosPerSecond)
  | 0 => by
    rw [now_retried_succ h, delay_succ]
    simp [retried, delay]
  | i + 1 => by
    have hmillis : backoff (i + 2) * nanosPerSecond
        = backoff (i + 2) * 1000 * nanosPerMilli := (Nat.mul_assoc _ _ _).symm
    rw [now_retried_succ h, now_retried h i, delay_succ (i + 1), Nat.add_mul, hmillis,
      wakeAt_wakeAt]

/-! ## 束を送ること -/

/-- 束が `j` 回断られた後の答えで終わること。呼び出しは `j + 1` 回で、最後の答えの後には休まない。 -/
structure SentAfter (p : Provider σ) (attempts : Nat) (texts : List String) (s : Session σ)
    (j : Nat) : Prop where
  send_eq : send p attempts texts s
    = (reply p texts s j, (p.embedBatch texts (retried p texts s j)).2)
  calls_eq : (send p.recorded attempts texts s.recording).2.calls
    = (List.range (j + 1)).map (nthCall p texts s)

theorem forget_send (p : Provider σ) (attempts : Nat) (texts : List String)
    (u : Session (Recorded σ)) :
    (send p.recorded attempts texts u).map id Session.forget = send p attempts texts u.forget :=
  forget_sendAgain texts _ 0 u

/-- 束を送ると、列の中で最初に送り直さなくてよい答えか、最後の答えが返る。 -/
theorem send_recorded_eq (p : Provider σ) (attempts : Nat) (texts : List String)
    (u : Session (Recorded σ)) :
    ∃ j < max 1 attempts,
      send p.recorded attempts texts u
        = p.recorded.embedBatch texts (retried p.recorded texts u j)
      ∧ (send p.recorded attempts texts u).2.calls
        = u.calls ++ (List.range (j + 1)).map (nthCall p texts u.forget)
      ∧ (∀ i < j, settles (reply p texts u.forget i) = false)
      ∧ (settles (reply p texts u.forget j) = true ∨ j + 1 = max 1 attempts) := by
  obtain ⟨j, -, hj, heq, hbefore, hlast⟩ := sendAgain_eq p.recorded texts u (attempts - 1) 0
  simp only [reply_recorded] at hbefore hlast
  have hsend : send p.recorded attempts texts u
      = p.recorded.embedBatch texts (retried p.recorded texts u j) := heq
  refine ⟨j, by omega, hsend, ?_, fun i hi => hbefore i (Nat.zero_le i) hi, ?_⟩
  · rw [hsend]
    exact calls_embedBatch_retried j (calls_retried p texts u j)
  · rcases hlast with hsettled | hend
    · exact Or.inl hsettled
    · exact Or.inr (by omega)

theorem exists_sentAfter (p : Provider σ) (attempts : Nat) (texts : List String) (s : Session σ) :
    ∃ j < max 1 attempts, SentAfter p attempts texts s j
      ∧ (∀ i < j, settles (reply p texts s i) = false)
      ∧ (settles (reply p texts s j) = true ∨ j + 1 = max 1 attempts) := by
  obtain ⟨j, hj, heq, hcalls, hbefore, hlast⟩ := send_recorded_eq p attempts texts s.recording
  refine ⟨j, hj, ⟨?_, hcalls⟩, hbefore, hlast⟩
  have hforget := forget_send p attempts texts s.recording
  rw [heq] at hforget
  refine hforget.symm.trans (Prod.ext ?_ ?_)
  · exact reply_recorded p texts s.recording j
  · show (p.embedBatch texts (retried p.recorded texts s.recording j).forget).2 = _
    rw [forget_retried]
    rfl

/--
**束は、決まった時刻に、決まった回数だけ送られる。**

提供元の答えの列を `reply p texts s 0`、`reply p texts s 1`、…… とし、送る回数の上限を
`m = max 1 attempts` とする。

* `m` 個のうちに成果か致命的な失敗があれば、そのような最初の答えが返り、そこで送るのをやめる。
* なければ、`m` 個めの答えが返る。
* どちらでも、した呼び出しは同じ文書の束ばかりで、最後の答えの後には休まない（`SentAfter`）。
* 呼び出しに時間がかからなければ、`i` 回断られた後の呼び出しは、初めの呼び出しから
  2⁰ + …… + 2^(min (i - 1) 16) 秒の後である。始めがミリ秒の境でなければ、次の境まで延びる。
-/
theorem send_follows_schedule (p : Provider σ) (attempts : Nat) (texts : List String)
    (s : Session σ) :
    (send p.recorded attempts texts s.recording).map id Session.forget = send p attempts texts s
    ∧ (∀ j < max 1 attempts, settles (reply p texts s j) = true →
        (∀ i < j, settles (reply p texts s i) = false) → SentAfter p attempts texts s j)
    ∧ ((∀ i < max 1 attempts, settles (reply p texts s i) = false) →
        SentAfter p attempts texts s (max 1 attempts - 1))
    ∧ ((∀ t, (p.embedBatch texts t).2.now = t.now) →
        (retried p texts s 0).now = s.now
        ∧ (∀ i, (retried p texts s (i + 1)).now = wakeAt s.now (delay (i + 1) * nanosPerSecond))
        ∧ (nanosPerMilli ∣ s.now → ∀ i,
            (retried p texts s i).now = s.now + delay i * nanosPerSecond)) := by
  obtain ⟨k, hk, hsent, hbefore, hlast⟩ := exists_sentAfter p attempts texts s
  refine ⟨forget_send p attempts texts s.recording, ?_, ?_, fun hnow => ⟨rfl, now_retried hnow, ?_⟩⟩
  · intro j hj hsettles hrefused
    -- `k` より前は断られ、`k` は答えか最後なので、最初の答え `j` は `k` である
    have hkj : k = j := by
      rcases Nat.lt_trichotomy k j with hlt | heq | hgt
      · rcases hlast with hsettled | hend
        · rw [hrefused k hlt] at hsettled
          cases hsettled
        · omega
      · exact heq
      · rw [hbefore j hgt] at hsettles
        cases hsettles
    exact hkj ▸ hsent
  · intro hrefused
    rcases hlast with hsettled | hend
    · rw [hrefused k hk] at hsettled
      cases hsettled
    · rwa [← hend]
  · intro hdvd i
    cases i with
    | zero => simp [retried, delay]
    | succ i =>
      rw [now_retried hnow i]
      unfold nanosPerSecond
      rw [← Nat.mul_assoc, wakeAt_of_dvd hdvd]

/-- 三度断られた束は四度めに届く。呼び出しは、始めと、その一秒、三秒、七秒の後である。 -/
theorem send_follows_schedule_refused :
    (∀ t, ((reluctant statement).embedBatch ["a", "b"] t).2.now = t.now)
    ∧ settles (reply (reluctant statement) ["a", "b"] { peer := 3 } 3) = true
    ∧ (∀ i < 3, settles (reply (reluctant statement) ["a", "b"] { peer := 3 } i) = false)
    ∧ SentAfter (reluctant statement) 5 ["a", "b"] { peer := 3 } 3
    ∧ (List.range 4).map (fun i => (retried (reluctant statement) ["a", "b"] { peer := 3 } i).now)
      = [0, nanosPerSecond, 3 * nanosPerSecond, 7 * nanosPerSecond] := by
  have hnow : ∀ t, ((reluctant statement).embedBatch ["a", "b"] t).2.now = t.now := by
    intro t
    unfold reluctant
    simp only []
    split <;> rfl
  have hanswer : settles (reply (reluctant statement) ["a", "b"] { peer := 3 } 3) = true := by
    decide +kernel
  have hrefused : ∀ i < 3,
      settles (reply (reluctant statement) ["a", "b"] { peer := 3 } i) = false := by
    decide +kernel
  obtain ⟨-, hsent, -, htimes⟩ :=
    send_follows_schedule (reluctant statement) 5 ["a", "b"] { peer := 3 }
  refine ⟨hnow, hanswer, hrefused, hsent 3 (by decide) hanswer hrefused, ?_⟩
  simp only [(htimes hnow).2.2 (Nat.dvd_zero _)]
  decide

end Embedding

end CodeSearch
