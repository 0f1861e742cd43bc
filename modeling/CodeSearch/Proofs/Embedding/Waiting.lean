import CodeSearch.Proofs.Embedding.TokenBucket

/-!
# 待つのは一度でよい

待つ秒は、足りるようになるまでの秒とちょうど等しい（`tryAcquire_iff_waitTime_le`）。求める量は容量に
収めてあるので、補う間に容量で頭打ちになっても足りる。だから、早く起きない眠りなら、一度眠れば足りる
（`Sound.draws_once`）。空の桶も一分で満ちるので、待つのは一分を超えない（`waitTime_le`）。

* `le_level_refill_iff` — 補った後で足りるのは、頭打ちを考えなくても足りるときである
* `Sound.draws_once` — 一度眠れば足りる
* `Ready.enter` — 鍵を手にしてから通るまでが、一分と眠りの遅れを超えない
* `wait_tight_take_returns` — 以上をまとめたもの
-/

namespace CodeSearch

open Quantity (nat)

/-- 待つ秒より早くは起きない眠り。 -/
def NeverEarly (sleep : Rat → Nat → Nat) : Prop :=
  ∀ wait now, now ≤ sleep wait now ∧ wait ≤ TokenBucket.seconds (sleep wait now - now)

/-- 遅れが `slack` ナノ秒までの眠り。一ミリ秒より短くは眠らなくてよい。 -/
def LateBy (sleep : Rat → Nat → Nat) (slack : Nat) : Prop :=
  ∀ wait now, (TokenBucket.seconds (sleep wait now - now) : Rat)
    ≤ max wait (TokenBucket.seconds nanosPerMilli) + TokenBucket.seconds slack

theorem neverEarly_sleepExactly : NeverEarly sleepExactly := by
  intro wait now
  refine ⟨le_sleepExactly wait now, ?_⟩
  have hceil : ⌈wait * 1000000000⌉₊ ≤ sleepExactly wait now - now := by
    have hwake := add_le_wakeAt now (max ⌈wait * 1000000000⌉₊ nanosPerMilli)
    unfold sleepExactly
    omega
  rw [TokenBucket.seconds_eq, le_div_iff₀ (by norm_num)]
  exact (Nat.le_ceil _).trans (Nat.cast_le.mpr hceil)

/-- 起きるのはミリ秒の境なので、遅れは一ミリ秒までである。 -/
theorem lateBy_sleepExactly : LateBy sleepExactly nanosPerMilli := by
  intro wait now
  have hmilli : (TokenBucket.seconds nanosPerMilli : Rat) = 1 / 1000 := by
    rw [TokenBucket.seconds_eq]
    norm_num [nanosPerMilli]
  have hwake : sleepExactly wait now - now + 1
      ≤ max ⌈wait * 1000000000⌉₊ nanosPerMilli + nanosPerMilli := by
    unfold sleepExactly wakeAt nanosPerMilli
    omega
  have hceil : ((max ⌈wait * 1000000000⌉₊ nanosPerMilli : Nat) : Rat)
      ≤ max wait (1 / 1000) * 1000000000 + 1 := by
    have hleft := le_max_left wait (1 / 1000 : Rat)
    have hright := le_max_right wait (1 / 1000 : Rat)
    rw [Nat.cast_max, max_le_iff]
    constructor
    · have hpos : (0 : Rat) ≤ max wait (1 / 1000) * 1000000000 := by linarith
      have hle : ⌈wait * 1000000000⌉₊ ≤ ⌈max wait (1 / 1000) * 1000000000⌉₊ :=
        Nat.ceil_mono (by linarith)
      exact (Nat.cast_le.mpr hle).trans (Nat.ceil_lt_add_one hpos).le
    · norm_num [nanosPerMilli]
      linarith
  have hsum : ((sleepExactly wait now - now : Nat) : Rat) + 1
      ≤ max wait (1 / 1000) * 1000000000 + 1 + 1000000 := by
    have h : ((sleepExactly wait now - now + 1 : Nat) : Rat)
        ≤ ((max ⌈wait * 1000000000⌉₊ nanosPerMilli + nanosPerMilli : Nat) : Rat) :=
      Nat.cast_le.mpr hwake
    rw [Nat.cast_add, Nat.cast_add, Nat.cast_one] at h
    have hnanos : ((nanosPerMilli : Nat) : Rat) = 1000000 := by norm_num [nanosPerMilli]
    linarith
  rw [hmilli, TokenBucket.seconds_eq, div_le_iff₀ (by norm_num)]
  linarith

namespace TokenBucket

variable {b : TokenBucket Rat} {cost : Rat} {now : Nat} {sleep : Rat → Nat → Nat}

/-! ## 待つ秒 -/

/-- **容量までの量なら、補った後で足りるのは、頭打ちを考えなくても足りるときである。** -/
theorem le_level_refill_iff {t : Nat} (hcost : cost ≤ b.capacity) (ht : b.refilledAt ≤ t) :
    cost ≤ (b.refill t).level ↔ cost ≤ b.level + seconds (t - b.refilledAt) * b.rate := by
  rcases ht.lt_or_eq with hlt | rfl
  · rw [refill_of_lt hlt]
    simp [hcost]
  · rw [refill_of_le le_rfl]
    simp

theorem tryAcquire_fst : (b.tryAcquire cost now).1 = true ↔ cost ≤ (b.refill now).level := by
  rw [tryAcquire_eq]
  split <;> simp_all

/-- **待つ秒は、足りるようになるまでの秒とちょうど等しい。** -/
theorem tryAcquire_iff_waitTime_le (hrate : 0 < b.rate) (hnow : b.refilledAt ≤ now)
    (hcost : cost ≤ b.capacity) (d : Nat) :
    (b.tryAcquire cost (now + d)).1 = true ↔ (b.waitTime cost now).1 ≤ seconds d := by
  have htime : (b.refill now).refilledAt = now := by simp [hnow]
  have hlater : (b.refill now).refilledAt ≤ now + d := by omega
  rw [tryAcquire_fst, ← refill_refill hrate.le (Nat.le_add_right now d),
    le_level_refill_iff (by simpa using hcost) hlater, waitTime_eq hrate, max_le_iff, htime,
    Nat.add_sub_cancel_left, rate_refill, div_le_iff₀ hrate, sub_le_iff_le_add']
  exact (and_iff_right (seconds_nonneg d)).symm

/-- 待つ秒を聞いた後の桶でも同じである。 -/
theorem tryAcquire_waitTime (hrate : 0 ≤ b.rate) (d : Nat) :
    ((b.waitTime cost now).2.tryAcquire cost (now + d)).1 = (b.tryAcquire cost (now + d)).1 := by
  rw [waitTime_snd, tryAcquire_eq, tryAcquire_eq, refill_refill hrate (Nat.le_add_right now d)]

/-- **容量までの量なら、待つのは一分を超えない。** -/
theorem Sound.waitTime_le (h : Sound b) (hcost : cost ≤ b.capacity) (now : Nat) :
    (b.waitTime cost now).1 ≤ 60 := by
  have hlevel := (h.refill now).level_nonneg
  rw [waitTime_eq h.rate_pos, max_le_iff, div_le_iff₀ h.rate_pos, h.rate_eq]
  constructor
  · norm_num
  · linarith

/-! ## 一度の眠り -/

/-- **早く起きない眠りなら、眠るのは一度までで、起きる時刻は待つ秒で決まる。** -/
theorem Sound.draws_once (hsleep : NeverEarly sleep) (h : Sound b) (hnow : b.refilledAt ≤ now)
    (hcost : cost ≤ b.capacity) :
    ∃ n ≤ 1, ∃ done, Draws sleep cost n b now ((b.refill done).spend cost, done)
      ∧ (done = now ∨ done = sleep (b.waitTime cost now).1 now) := by
  have hrate := h.rate_pos
  by_cases henough : cost ≤ (b.refill now).level
  · exact ⟨0, Nat.zero_le 1, now, .enough (by rw [tryAcquire_eq, if_pos henough]), Or.inl rfl⟩
  · have hfail : b.tryAcquire cost now = (false, b.refill now) := by
      rw [tryAcquire_eq, if_neg henough]
    have hsame : (b.refill now).waitTime cost now = b.waitTime cost now := by
      rw [waitTime_eq hrate, waitTime_eq (by simpa using hrate), refill_refill hrate.le le_rfl,
        rate_refill]
    obtain ⟨hlater, hlong⟩ := hsleep (b.waitTime cost now).1 now
    generalize hwake : sleep (b.waitTime cost now).1 now = wake at hlater hlong
    have henough : cost ≤ (b.refill wake).level := by
      have hiff := tryAcquire_iff_waitTime_le hrate hnow hcost (wake - now)
      rw [Nat.add_sub_cancel' hlater, tryAcquire_fst] at hiff
      exact hiff.mpr hlong
    refine ⟨1, le_rfl, wake, .again hfail ?_, Or.inr rfl⟩
    rw [hsame, hwake, waitTime_snd]
    refine .enough ?_
    rw [tryAcquire_eq, refill_refill hrate.le hlater, if_pos henough]

/-- 取り出すまでが、一分と眠りの遅れを超えない。 -/
theorem Sound.done_le (h : Sound b) (hcost : cost ≤ b.capacity) {slack done : Nat}
    (hlate : LateBy sleep slack)
    (hdone : done = now ∨ done = sleep (b.waitTime cost now).1 now) :
    (seconds (done - now) : Rat) ≤ 60 + seconds slack := by
  rcases hdone with rfl | rfl
  · have := seconds_nonneg slack
    rw [Nat.sub_self, seconds_zero]
    linarith
  · have hmilli : (seconds nanosPerMilli : Rat) ≤ 60 := by
      rw [seconds_eq]
      norm_num [nanosPerMilli]
    exact (hlate _ now).trans (add_le_add_left (max_le (h.waitTime_le hcost now) hmilli) _)

end TokenBucket

/-! ## 鍵を待って通る -/

/-- 鍵を手にしてから通るまでが `limit` 秒を超えないこと。桶がなければ待たない。 -/
def Prompt (gate : Option (Gate Rat)) (arrival done : Nat) (limit : Rat) : Prop :=
  match gate with
  | none => done = arrival
  | some g => ∃ free, g.free = some free ∧ max arrival free ≤ done
      ∧ TokenBucket.seconds (done - max arrival free) ≤ limit

/-- 鍵がいつかは空く桶。 -/
structure Gate.Ready (g : Gate Rat) : Prop where
  sound : g.Sound
  isSome : g.free.isSome

/-- **鍵がいつかは空くなら、通り終わり、また鍵が空く。** -/
theorem Gate.Ready.pass {sleep : Rat → Nat → Nat} (hsleep : NeverEarly sleep) {g : Gate Rat}
    (h : g.Ready) (cost : Rat) (now : Nat) :
    ∃ done, (g.pass sleep cost now).2 = some done ∧ (g.pass sleep cost now).1.Ready
      ∧ ∀ slack, LateBy sleep slack →
        Prompt (some g) now done (60 + TokenBucket.seconds slack) := by
  have hclock : ∀ wait now, now ≤ sleep wait now := fun wait now => (hsleep wait now).1
  obtain ⟨free, hfree⟩ := Option.isSome_iff_exists.mp h.isSome
  have hstart : g.bucket.refilledAt ≤ max now free :=
    (h.sound.refilled free hfree).trans (le_max_right _ _)
  have hcost : min cost g.bucket.capacity ≤ g.bucket.capacity := min_le_right _ _
  obtain ⟨n, -, done, hdraws, hdone⟩ := h.sound.bucket.draws_once hsleep hstart hcost
  have hpass : g.pass sleep cost now
      = (⟨(g.bucket.refill done).spend (min cost g.bucket.capacity), some done⟩, some done) := by
    simp only [Gate.pass, hfree, TokenBucket.take?, TokenBucket.min_exact]
    rw [show Nat.max now free = max now free from rfl, hdraws.draw?_eq]
  have hsound := (h.sound.pass hclock cost now).1
  rw [hpass] at hsound ⊢
  exact ⟨done, rfl, ⟨hsound, rfl⟩, fun slack hlate => ⟨free, hfree,
    (hdraws.bucket_eq hclock h.sound.bucket.rate_pos.le).1,
    h.sound.bucket.done_le hcost hlate hdone⟩⟩

namespace RateLimiter

variable {sleep : Rat → Nat → Nat} {r : RateLimiter Rat}

/-- どの鍵もいつかは空く制限。 -/
structure Ready (r : RateLimiter Rat) : Prop where
  requests : ∀ g, r.requests = some g → g.Ready
  tokens : ∀ g, r.tokens = some g → g.Ready

theorem Ready.ofLimits (requests tokens : Option Nat) (created : Nat) :
    Ready (ofLimits requests tokens created) := by
  have hfull : ∀ (limit : Option Nat) (g : Gate Rat),
      limit.map (Gate.perMinute · created) = some g → g.Ready := by
    intro limit g h
    obtain ⟨n, -, rfl⟩ := Option.map_eq_some_iff.mp h
    exact ⟨.perMinute n created, rfl⟩
  exact ⟨hfull requests, hfull tokens⟩

theorem passThrough_ready (hsleep : NeverEarly sleep) (cost : Rat) {gate : Option (Gate Rat)}
    (h : ∀ g, gate = some g → g.Ready) (now : Nat) :
    ∃ done, (passThrough sleep cost gate (some now)).2 = some done
      ∧ (∀ g, (passThrough sleep cost gate (some now)).1 = some g → g.Ready)
      ∧ ∀ slack, LateBy sleep slack → Prompt gate now done (60 + TokenBucket.seconds slack) := by
  cases gate with
  | none => exact ⟨now, rfl, by simp [passThrough], fun _ _ => rfl⟩
  | some g =>
    obtain ⟨done, hdone, hready, hprompt⟩ := (h g rfl).pass hsleep cost now
    refine ⟨done, hdone, fun g' hg' => ?_, hprompt⟩
    obtain rfl := Option.some.inj hg'
    exact hready

/-- **どの鍵もいつかは空くなら、要求は通り終わり、また鍵が空く。** -/
theorem Ready.enter (hsleep : NeverEarly sleep) (h : Ready r) (count now : Nat) :
    (r.enter sleep count now).1.Ready ∧ ∃ counted done,
      (r.enter sleep count now).2 = ⟨some counted, some done⟩
        ∧ ∀ slack, LateBy sleep slack →
          Prompt r.requests now counted (60 + TokenBucket.seconds slack)
            ∧ Prompt r.tokens counted done (60 + TokenBucket.seconds slack) := by
  obtain ⟨counted, hcounted, hrequests, hprompt⟩ :=
    passThrough_ready hsleep (nat 1) h.requests now
  obtain ⟨done, hdone, htokens, hprompt'⟩ :=
    passThrough_ready hsleep (nat count) h.tokens counted
  simp only [RateLimiter.enter, hcounted]
  exact ⟨⟨hrequests, htokens⟩, counted, done, by rw [hdone],
    fun slack hlate => ⟨hprompt slack hlate, hprompt' slack hlate⟩⟩

/-- 呼び出しを来た順に通した後の制限。 -/
def after (sleep : Rat → Nat → Nat) (r : RateLimiter Rat) (calls : List Call) : RateLimiter Rat :=
  calls.foldl (fun r c => (r.enter sleep c.count c.time).1) r

theorem Ready.after (hsleep : NeverEarly sleep) (calls : List Call) (h : Ready r) :
    Ready (r.after sleep calls) := by
  induction calls generalizing r with
  | nil => exact h
  | cons c cs ih => exact ih (h.enter hsleep c.count c.time).1

/--
**待つ秒はちょうどで、取り出しは必ず終わる。**

早く起きない眠りについて、

* 毎分の上限から作って、どう触れた桶でも、容量までの量なら、足りるのはちょうど待つ秒の後からである。
  待つ秒を聞く前の桶でも、聞いた後の桶でも同じである。
* どの量でも、眠るのは一度までで取り出しが終わり、容量を超える分は引かれない。
* どれだけ要求を通した後でも、次の要求は通り終わる。それぞれの桶の鍵を手にしてからは、六十秒と眠りの
  遅れを超えて待つことはない。
-/
theorem wait_tight_take_returns (hsleep : NeverEarly sleep) (created : Nat) :
    (∀ (n : Nat) (touches : List TokenBucket.Touch) (now : Nat) (cost : Rat),
      let b := ((TokenBucket.perMinute n created).touch touches).1
      b.refilledAt ≤ now →
      (cost ≤ b.capacity → ∀ d,
        ((b.tryAcquire cost (now + d)).1 = true
          ↔ (b.waitTime cost now).1 ≤ TokenBucket.seconds d)
        ∧ (((b.waitTime cost now).2.tryAcquire cost (now + d)).1 = true
          ↔ (b.waitTime cost now).1 ≤ TokenBucket.seconds d))
      ∧ ∃ sleeps ≤ 1, ∃ done,
        TokenBucket.Draws sleep (min cost b.capacity) sleeps b now
          ((b.refill done).spend (min cost b.capacity), done)
        ∧ b.take? sleep cost now = some ((b.refill done).spend (min cost b.capacity), done))
    ∧ ∀ (requests tokens : Option Nat) (calls : List Call) (count now : Nat),
      let r := after sleep (ofLimits requests tokens created) calls
      ∃ counted done, (r.enter sleep count now).2 = ⟨some counted, some done⟩
        ∧ (r.acquire sleep count now).2 = done
        ∧ ∀ slack, LateBy sleep slack →
          Prompt r.requests now counted (60 + TokenBucket.seconds slack)
            ∧ Prompt r.tokens counted done (60 + TokenBucket.seconds slack) := by
  constructor
  · intro n touches now cost b hnow
    have hsound : b.Sound := (TokenBucket.Sound.perMinute n created).touch touches
    refine ⟨fun hcost d => ?_, ?_⟩
    · have hiff := TokenBucket.tryAcquire_iff_waitTime_le hsound.rate_pos hnow hcost d
      rw [TokenBucket.tryAcquire_waitTime hsound.rate_pos.le]
      exact ⟨hiff, hiff⟩
    · obtain ⟨sleeps, honce, done, hdraws, -⟩ :=
        hsound.draws_once hsleep hnow (min_le_right cost b.capacity)
      refine ⟨sleeps, honce, done, hdraws, ?_⟩
      rw [TokenBucket.take?, TokenBucket.min_exact, hdraws.draw?_eq]
  · intro requests tokens calls count now r
    have hready : Ready r := (Ready.ofLimits requests tokens created).after hsleep calls
    obtain ⟨counted, done, hpassage, hprompt⟩ := (hready.enter hsleep count now).2
    exact ⟨counted, done, hpassage, by simp [acquire, hpassage], hprompt⟩

/-! ### 使い切った桶 -/

/-- 一分に六十の桶を使い切ったもの。 -/
def drained : TokenBucket Rat := ((TokenBucket.perMinute 60 0).touch [.acquire 60 0]).1

/-- 半分が足りるのはちょうど三十秒後からで、容量より多く求めても一度眠れば取り出せる。毎分二回の制限に
三つめの要求が重なっても、鍵を手にしてから六十秒と一ミリ秒を超えて待たない。 -/
theorem wait_tight_take_returns_drained :
    NeverEarly sleepExactly ∧ LateBy sleepExactly nanosPerMilli ∧ drained.refilledAt ≤ 0
    ∧ (∀ d, (drained.tryAcquire 30 (0 + d)).1 = true ↔ 30 ≤ (TokenBucket.seconds d : Rat))
    ∧ (∃ sleeps ≤ 1, ∃ done, TokenBucket.Draws sleepExactly 60 sleeps drained 0
      ((drained.refill done).spend 60, done)
      ∧ drained.take? sleepExactly 100 0 = some ((drained.refill done).spend 60, done))
    ∧ ∃ counted done,
      ((after sleepExactly (ofLimits (some 2) none 0) [⟨0, 1⟩, ⟨0, 1⟩]).enter sleepExactly 1 0).2
          = ⟨some counted, some done⟩
        ∧ Prompt (after sleepExactly (ofLimits (some 2) none 0) [⟨0, 1⟩, ⟨0, 1⟩]).requests 0
          counted (60 + TokenBucket.seconds nanosPerMilli) := by
  have hstart : drained.refilledAt ≤ 0 := by decide +kernel
  have hwait : (drained.waitTime 30 0).1 = 30 := by decide +kernel
  have hclamped : min 100 drained.capacity = 60 := by decide +kernel
  obtain ⟨hbucket, hlimiter⟩ := wait_tight_take_returns neverEarly_sleepExactly 0
  refine ⟨neverEarly_sleepExactly, lateBy_sleepExactly, hstart, fun d => ?_, ?_, ?_⟩
  · have h : (drained.tryAcquire 30 (0 + d)).1 = true
        ↔ (drained.waitTime 30 0).1 ≤ TokenBucket.seconds d :=
      ((hbucket 60 [.acquire 60 0] 0 30 hstart).1 (by decide +kernel) d).1
    rwa [hwait] at h
  · have h : ∃ sleeps ≤ 1, ∃ done,
        TokenBucket.Draws sleepExactly (min 100 drained.capacity) sleeps drained 0
          ((drained.refill done).spend (min 100 drained.capacity), done)
        ∧ drained.take? sleepExactly 100 0
          = some ((drained.refill done).spend (min 100 drained.capacity), done) :=
      (hbucket 60 [.acquire 60 0] 0 100 hstart).2
    rwa [hclamped] at h
  · obtain ⟨counted, done, hpassage, -, hprompt⟩ := hlimiter (some 2) none [⟨0, 1⟩, ⟨0, 1⟩] 1 0
    exact ⟨counted, done, hpassage, (hprompt nanosPerMilli lateBy_sleepExactly).1⟩

end RateLimiter

end CodeSearch
