import CodeSearch.Clock
import CodeSearch.Embedding.TokenBucket
import Mathlib

/-!
# 桶の正確な計算

時刻 `t` まで補った桶は、途中で何度補っても同じである（`refill_refill`）。だから、眠り直しながら
取り出した後の桶は、取り出した時刻まで一度に補って引いたものになる（`Draws.bucket_eq`）。

* `refill_refill` — 途中で補っても変わらない
* `tryAcquire_eq`、`waitTime_eq` — どちらも今まで補ってから、残量と比べる
* `draw?_eq_some` — 取り出しが終わるのは、有限回の眠り直しで足りるときである
* `Sound` — 毎分の上限から作った桶が、どう触れても保つこと
-/

namespace CodeSearch.TokenBucket

open Quantity (lt le nat)

/-! ## 秒 -/

theorem seconds_eq (nanos : Nat) : (seconds nanos : Rat) = nanos / 1000000000 := by
  have hsplit : (nanos : Rat)
      = ((1000000000 * (nanos / 1000000000) + nanos % 1000000000 : Nat) : Rat) := by
    rw [Nat.div_add_mod]
  rw [hsplit]
  push_cast
  show ((nanos / 1000000000 : Nat) : Rat) + ((nanos % 1000000000 : Nat) : Rat) / (1000000000 : Nat)
    = _
  push_cast
  ring

@[simp] theorem seconds_zero : (seconds 0 : Rat) = 0 := by
  simp [seconds_eq]

theorem seconds_nonneg (nanos : Nat) : 0 ≤ (seconds nanos : Rat) := by
  rw [seconds_eq]
  positivity

theorem seconds_pos {nanos : Nat} : 0 < (seconds nanos : Rat) ↔ 0 < nanos := by
  rw [seconds_eq]
  constructor
  · intro h
    by_contra hzero
    simp [Nat.eq_zero_of_not_pos hzero] at h
  · intro h
    positivity

theorem seconds_mono {m n : Nat} (h : m ≤ n) : (seconds m : Rat) ≤ seconds n := by
  rw [seconds_eq, seconds_eq]
  gcongr

theorem seconds_add (m n : Nat) : (seconds (m + n) : Rat) = seconds m + seconds n := by
  rw [seconds_eq, seconds_eq, seconds_eq]
  push_cast
  ring

/-- 途中の時刻で分けた秒。 -/
theorem seconds_sub {u t v : Nat} (hut : u ≤ t) (htv : t ≤ v) :
    (seconds (v - u) : Rat) = seconds (t - u) + seconds (v - t) := by
  rw [← seconds_add]
  congr 1
  omega

/-- 有理数では、比べられないことがない。 -/
theorem min_exact (x y : Rat) : Quantity.min x y = min x y := by
  simp only [Quantity.min, lt, decide_eq_true_eq]
  rw [min_comm, min_def_lt]

section

variable {b : TokenBucket Rat} {cost : Rat} {now : Nat}

/-! ## 補う -/

theorem refill_of_le (h : now ≤ b.refilledAt) : b.refill now = b := by
  unfold refill
  rw [Nat.sub_eq_zero_of_le h]
  simp [lt, nat]

theorem refill_of_lt (h : b.refilledAt < now) : b.refill now =
    { b with level := min (b.level + seconds (now - b.refilledAt) * b.rate) b.capacity,
             refilledAt := now } := by
  have hpos : lt (nat 0) (seconds (now - b.refilledAt) : Rat) = true := by
    simpa [lt, nat] using seconds_pos.mpr (Nat.sub_pos_of_lt h)
  unfold refill
  simp only [hpos, if_true]
  rw [min_exact]

@[simp] theorem capacity_refill : (b.refill now).capacity = b.capacity := by
  unfold refill
  dsimp only
  split <;> rfl

@[simp] theorem rate_refill : (b.refill now).rate = b.rate := by
  unfold refill
  dsimp only
  split <;> rfl

@[simp] theorem refilledAt_refill : (b.refill now).refilledAt = max b.refilledAt now := by
  rcases Nat.lt_or_ge b.refilledAt now with h | h
  · rw [refill_of_lt h, max_eq_right h.le]
  · rw [refill_of_le h, max_eq_left h]

/-- **途中で補っても変わらない。** -/
theorem refill_refill {u t : Nat} (hrate : 0 ≤ b.rate) (h : u ≤ t) :
    (b.refill u).refill t = b.refill t := by
  rcases Nat.lt_or_ge b.refilledAt u with hu | hu
  · rcases h.lt_or_eq with hut | rfl
    · have hgain : 0 ≤ (seconds (t - u) : Rat) * b.rate := mul_nonneg (seconds_nonneg _) hrate
      rw [refill_of_lt hu, refill_of_lt hut, refill_of_lt (hu.trans hut), seconds_sub hu.le h]
      congr 1
      dsimp only
      rw [← min_add_add_right, min_assoc, min_eq_right (le_add_of_nonneg_right hgain)]
      congr 1
      ring
    · exact refill_of_le (by simp)
  · rw [refill_of_le hu]

/-! ## 取り出しと待ち -/

/-- 残量から引く。 -/
def spend (b : TokenBucket Rat) (cost : Rat) : TokenBucket Rat := { b with level := b.level - cost }

@[simp] theorem capacity_spend : (b.spend cost).capacity = b.capacity := rfl

@[simp] theorem rate_spend : (b.spend cost).rate = b.rate := rfl

@[simp] theorem refilledAt_spend : (b.spend cost).refilledAt = b.refilledAt := rfl

@[simp] theorem level_spend : (b.spend cost).level = b.level - cost := rfl

/-- 取り出すときは、今まで補ってから、足りていれば引く。 -/
theorem tryAcquire_eq : b.tryAcquire cost now =
    if cost ≤ (b.refill now).level then (true, (b.refill now).spend cost)
    else (false, b.refill now) := by
  simp only [tryAcquire, le, decide_eq_true_eq]
  rfl

/-- 待つ秒は、今まで補ってから、不足分を速さで割ったものである。 -/
theorem waitTime_eq (hrate : 0 < b.rate) : b.waitTime cost now =
    (max 0 ((cost - (b.refill now).level) / b.rate), b.refill now) := by
  simp only [waitTime, le, nat, Nat.cast_zero, decide_eq_true_eq, rate_refill]
  split
  · next hle => rw [max_eq_left (div_nonpos_of_nonpos_of_nonneg hle hrate.le)]
  · next hlt => rw [max_eq_right (div_nonneg (not_le.mp hlt).le hrate.le)]

theorem waitTime_snd : (b.waitTime cost now).2 = b.refill now := by
  unfold waitTime
  dsimp only
  split <;> rfl

/-! ## 眠り直す取り出し -/

section

variable {α : Type} [Quantity α] {sleep : α → Nat → Nat} {cost : α}

/-- `n` 回眠って取り出しが終わること。`r` は取り出した後の桶と時刻である。 -/
inductive Draws (sleep : α → Nat → Nat) (cost : α) :
    (n : Nat) → TokenBucket α → (now : Nat) → (r : TokenBucket α × Nat) → Prop
  /-- 足りているので、眠らない。 -/
  | enough {b b' : TokenBucket α} {now : Nat} (h : b.tryAcquire cost now = (true, b')) :
      Draws sleep cost 0 b now (b', now)
  /-- 足りないので、待つ秒だけ眠ってから取り出す。 -/
  | again {n : Nat} {b b' : TokenBucket α} {now : Nat} {r : TokenBucket α × Nat}
      (h : b.tryAcquire cost now = (false, b'))
      (rest : Draws sleep cost n (b'.waitTime cost now).2 (sleep (b'.waitTime cost now).1 now) r) :
      Draws sleep cost (n + 1) b now r

theorem Draws.draw?_eq {n now : Nat} {b : TokenBucket α} {r : TokenBucket α × Nat}
    (h : Draws sleep cost n b now r) : draw? sleep cost b now = some r := by
  induction h with
  | enough h =>
    rw [draw?]
    simp only [h]
  | again h _ ih =>
    rw [draw?]
    simp only [h]
    exact ih

/-- **取り出しが終わるのは、有限回の眠り直しで足りるときである。** -/
theorem draw?_eq_some {now : Nat} {b : TokenBucket α} {r : TokenBucket α × Nat} :
    draw? sleep cost b now = some r ↔ ∃ n, Draws sleep cost n b now r := by
  refine ⟨fun h => ?_, fun ⟨_, h⟩ => h.draw?_eq⟩
  refine draw?.partial_correctness sleep cost (fun b now r => ∃ n, Draws sleep cost n b now r)
    (fun rec ih b now r h => ?_) b now r h
  split at h
  · next b' htry =>
    obtain rfl := Option.some.inj h
    exact ⟨0, .enough htry⟩
  · next b' htry =>
    obtain ⟨n, hrest⟩ := ih _ _ _ h
    exact ⟨n + 1, .again htry hrest⟩

end

/-- **眠り直して取り出した桶は、取り出した時刻まで一度に補って引いたものである。** -/
theorem Draws.bucket_eq {sleep : Rat → Nat → Nat} (hsleep : ∀ wait now, now ≤ sleep wait now)
    {n : Nat} {r : TokenBucket Rat × Nat} (h : Draws sleep cost n b now r) (hrate : 0 ≤ b.rate) :
    now ≤ r.2 ∧ cost ≤ (b.refill r.2).level ∧ r.1 = (b.refill r.2).spend cost := by
  induction h with
  | enough h =>
    rw [tryAcquire_eq] at h
    split at h
    · next hle =>
      obtain rfl := (Prod.mk.inj h).2
      exact ⟨le_rfl, hle, rfl⟩
    · simp at h
  | @again n b b' now r h _ ih =>
    rw [tryAcquire_eq] at h
    split at h
    · simp at h
    · obtain rfl := (Prod.mk.inj h).2
      rw [waitTime_snd, refill_refill hrate le_rfl] at ih
      obtain ⟨hle, hlevel, heq⟩ := ih (by simpa using hrate)
      have hnow : now ≤ r.2 := (hsleep _ now).trans hle
      rw [refill_refill hrate hnow] at hlevel heq
      exact ⟨hnow, hlevel, heq⟩

/-! ## どう触れても保つこと -/

/-- 毎分の上限から作った桶が保つこと。 -/
structure Sound (b : TokenBucket Rat) : Prop where
  one_le_capacity : 1 ≤ b.capacity
  rate_eq : b.rate = b.capacity / 60
  level_nonneg : 0 ≤ b.level

namespace Sound

theorem rate_pos (h : Sound b) : 0 < b.rate := by
  rw [h.rate_eq]
  linarith [h.one_le_capacity]

theorem perMinute (n created : Nat) : Sound (perMinute n created) where
  one_le_capacity := Nat.one_le_cast.mpr (Nat.le_max_right n 1)
  rate_eq := rfl
  level_nonneg := Nat.cast_nonneg _

theorem refill (h : Sound b) (now : Nat) : Sound (b.refill now) where
  one_le_capacity := by simpa using h.one_le_capacity
  rate_eq := by simpa using h.rate_eq
  level_nonneg := by
    rcases Nat.lt_or_ge b.refilledAt now with hlt | hle
    · rw [refill_of_lt hlt]
      exact le_min (add_nonneg h.level_nonneg (mul_nonneg (seconds_nonneg _) h.rate_pos.le))
        (zero_le_one.trans h.one_le_capacity)
    · rw [refill_of_le hle]
      exact h.level_nonneg

theorem spend (h : Sound b) (hcost : cost ≤ b.level) : Sound (b.spend cost) where
  one_le_capacity := h.one_le_capacity
  rate_eq := h.rate_eq
  level_nonneg := sub_nonneg.mpr hcost

end Sound

end

/-- 桶に触れる呼び出し。 -/
inductive Touch where
  | acquire (cost : Rat) (now : Nat)
  | wait (cost : Rat) (now : Nat)

namespace Touch

/-- 呼んだ時刻。 -/
def now : Touch → Nat
  | acquire _ now | wait _ now => now

/-- 求めた量。 -/
def cost : Touch → Rat
  | acquire cost _ | wait cost _ => cost

/-- 触れた後の桶と、渡した量。 -/
def apply (b : TokenBucket Rat) : Touch → TokenBucket Rat × Rat
  | acquire cost now =>
    let (given, b) := b.tryAcquire cost now
    (b, if given then cost else 0)
  | wait cost now => ((b.waitTime cost now).2, 0)

/-- 触れると、その時刻まで補い、渡した量を引く。渡した量は残量を超えない。 -/
theorem apply_eq (b : TokenBucket Rat) (t : Touch) :
    (t.apply b).1 = (b.refill t.now).spend (t.apply b).2
      ∧ ((t.apply b).2 = t.cost ∧ t.cost ≤ (b.refill t.now).level ∨ (t.apply b).2 = 0) := by
  have hnone : ∀ b : TokenBucket Rat, b = b.spend 0 := fun b => by simp [TokenBucket.spend]
  cases t with
  | acquire cost now =>
    simp only [apply, Touch.now, Touch.cost, tryAcquire_eq]
    split
    · next hle => exact ⟨rfl, Or.inl ⟨rfl, hle⟩⟩
    · exact ⟨hnone _, Or.inr rfl⟩
  | wait cost now =>
    simp only [apply, Touch.now, waitTime_snd]
    exact ⟨hnone _, Or.inr trivial⟩

end Touch

/-- 順に触れた後の桶と、渡した量の合計。 -/
def touch (b : TokenBucket Rat) : List Touch → TokenBucket Rat × Rat
  | [] => (b, 0)
  | t :: ts => ((touch (t.apply b).1 ts).1, (t.apply b).2 + (touch (t.apply b).1 ts).2)

theorem Sound.apply {b : TokenBucket Rat} (h : Sound b) (t : Touch) : Sound (t.apply b).1 := by
  obtain ⟨heq, hgiven⟩ := t.apply_eq b
  rw [heq]
  refine (h.refill t.now).spend ?_
  rcases hgiven with ⟨hcost, hle⟩ | hzero
  · rwa [hcost]
  · rw [hzero]
    exact (h.refill t.now).level_nonneg

theorem Sound.touch : ∀ {b : TokenBucket Rat} (ts : List Touch), Sound b → Sound (b.touch ts).1
  | _, [], h => h
  | _, t :: ts, h => Sound.touch ts (h.apply t)

end CodeSearch.TokenBucket

namespace CodeSearch

/-! ## 正確な眠り -/

/-- 待つ秒だけ眠る。ナノ秒に切り上げ、一ミリ秒より短くは眠らない。 -/
def sleepExactly (wait : Rat) (now : Nat) : Nat :=
  wakeAt now (max ⌈wait * 1000000000⌉₊ nanosPerMilli)

theorem le_sleepExactly (wait : Rat) (now : Nat) : now ≤ sleepExactly wait now :=
  (Nat.le_add_right now _).trans (add_le_wakeAt now _)

/-! ## 鍵のついた桶 -/

namespace Gate

variable {g : Gate Rat} {sleep : Rat → Nat → Nat}

/-- 鍵のついた桶が保つこと。 -/
structure Sound (g : Gate Rat) : Prop where
  bucket : g.bucket.Sound
  /-- 鍵が空いてから補うことはない。 -/
  refilled : ∀ free, g.free = some free → g.bucket.refilledAt ≤ free

theorem Sound.perMinute (n created : Nat) : Sound (perMinute n created) where
  bucket := .perMinute n created
  refilled := by
    intro free hfree
    exact (Option.some.inj hfree).le

/-- **鍵が空くのを待って取り出すか、いつまでも終わらないかである。** -/
theorem Sound.pass_cases (hsleep : ∀ wait now, now ≤ sleep wait now) (h : g.Sound) (cost : Rat)
    (now : Nat) :
    (∃ free done, g.free = some free ∧ max now free ≤ done
      ∧ min cost g.bucket.capacity ≤ (g.bucket.refill done).level
      ∧ g.pass sleep cost now
        = (⟨(g.bucket.refill done).spend (min cost g.bucket.capacity), some done⟩, some done))
    ∨ g.pass sleep cost now = (⟨g.bucket, none⟩, none) := by
  obtain ⟨bucket, free⟩ := g
  cases free with
  | none => exact Or.inr rfl
  | some free =>
    simp only [pass, TokenBucket.take?, TokenBucket.min_exact]
    cases hdraw : bucket.draw? sleep (min cost bucket.capacity) (Nat.max now free) with
    | none => exact Or.inr rfl
    | some r =>
      obtain ⟨n, hdraws⟩ := TokenBucket.draw?_eq_some.mp hdraw
      obtain ⟨hdone, hlevel, heq⟩ := hdraws.bucket_eq hsleep h.bucket.rate_pos.le
      exact Or.inl ⟨free, r.2, rfl, hdone, hlevel, by rw [← heq]⟩

/-- 取り出しても、保つことは変わらず、容量も変わらない。 -/
theorem Sound.pass (hsleep : ∀ wait now, now ≤ sleep wait now) (h : g.Sound) (cost : Rat)
    (now : Nat) :
    (g.pass sleep cost now).1.Sound
      ∧ (g.pass sleep cost now).1.bucket.capacity = g.bucket.capacity := by
  rcases h.pass_cases hsleep cost now with ⟨free, done, hfree, hdone, hlevel, heq⟩ | heq
  · rw [heq]
    refine ⟨⟨(h.bucket.refill done).spend hlevel, fun free' hfree' => ?_⟩, by simp⟩
    obtain rfl := Option.some.inj hfree'
    simpa using (h.refilled free hfree).trans ((le_max_right _ _).trans hdone)
  · rw [heq]
    exact ⟨⟨h.bucket, by simp⟩, rfl⟩

end Gate

namespace RateLimiter

/-- 時刻 `time` に来た、`count` 語の要求。 -/
structure Call where
  time : Nat
  count : Nat

end RateLimiter

end CodeSearch
