import CodeSearch.Proofs.Embedding.TokenBucket

/-!
# 流量は上限を超えない

時刻 `v` までに桶が渡せる量（`allowance`）は、残量と、それまでに補われる量の和である。補っても増えず、
渡した分だけ減る。だから、どう触れても、渡した量の合計は初めの `allowance` を超えない（`touch_allowance`）。

窓の初めまで補った桶の `allowance` は、窓の中で渡せる量の上限になる（`Gate.budget`）。満杯より多くは
補われないので、窓より前に何があっても、容量と窓の間に補われる量の和を超えない（`budget_perMinute`）。

* `allowance_refill_le`、`allowance_spend` — 補っても増えず、渡した分だけ減る
* `Gate.pass_budget` — 鍵を待って取り出すと、窓の中なら渡した分だけ、外でも増えはしない
* `charged_le_budget` — 呼び出しを順に通したとき、一つの桶から取り出された量の合計
* `limiter_within_budget` — 以上をまとめたもの
-/

namespace CodeSearch

open Quantity (nat)

namespace TokenBucket

variable {b : TokenBucket Rat}

/-! ## 渡せる量 -/

/-- 時刻 `v` までに渡せる量。`v` より後まで補った桶は、もう何も渡せない。 -/
def allowance (b : TokenBucket Rat) (v : Nat) : Rat :=
  if b.refilledAt ≤ v then b.level + seconds (v - b.refilledAt) * b.rate else 0

theorem allowance_of_lt {v : Nat} (h : v < b.refilledAt) : b.allowance v = 0 :=
  if_neg h.not_ge

theorem Sound.allowance_nonneg (h : Sound b) (v : Nat) : 0 ≤ b.allowance v := by
  unfold allowance
  split
  · exact add_nonneg h.level_nonneg (mul_nonneg (seconds_nonneg _) h.rate_pos.le)
  · exact le_rfl

/-- **補っても、渡せる量は増えない。** -/
theorem Sound.allowance_refill_le (h : Sound b) (now v : Nat) :
    (b.refill now).allowance v ≤ b.allowance v := by
  rcases Nat.lt_or_ge b.refilledAt now with hlt | hle
  · rcases Nat.lt_or_ge v now with hv | hv
    · rw [allowance_of_lt (by simp [hv])]
      exact h.allowance_nonneg v
    · rw [refill_of_lt hlt, allowance, allowance, if_pos hv, if_pos (hlt.le.trans hv),
        seconds_sub hlt.le hv, add_mul, ← add_assoc]
      gcongr
      exact min_le_left _ _
  · rw [refill_of_le hle]

/-- **渡した分だけ、渡せる量が減る。** -/
theorem allowance_spend {v : Nat} (hv : b.refilledAt ≤ v) (cost : Rat) :
    cost + (b.spend cost).allowance v = b.allowance v := by
  rw [allowance, allowance, refilledAt_spend, if_pos hv, if_pos hv]
  simp only [level_spend, rate_spend]
  ring

/-- 先に引いてから補っても、引かずに補ったものより多くは渡せない。 -/
theorem allowance_refill_spend_le {cost : Rat} (hcost : 0 ≤ cost) (u v : Nat) :
    ((b.spend cost).refill u).allowance v ≤ (b.refill u).allowance v := by
  have hless : ((b.spend cost).refill u).level ≤ (b.refill u).level := by
    rcases Nat.lt_or_ge b.refilledAt u with hlt | hle
    · rw [refill_of_lt hlt, refill_of_lt (by simpa using hlt)]
      simp only [level_spend, rate_spend, refilledAt_spend, capacity_spend]
      gcongr
      linarith
    · rw [refill_of_le hle, refill_of_le (by simpa using hle), level_spend]
      linarith
  simp only [allowance, refilledAt_refill, refilledAt_spend, rate_refill, rate_spend]
  split
  · gcongr
  · exact le_rfl

/-! ## どう触れても -/

theorem Sound.apply_allowance (h : Sound b) {latest : Nat} (hb : b.refilledAt ≤ latest) {t : Touch}
    (ht : t.now ≤ latest) :
    (t.apply b).2 + (t.apply b).1.allowance latest ≤ b.allowance latest
      ∧ (t.apply b).1.refilledAt ≤ latest := by
  rw [(t.apply_eq b).1, refilledAt_spend, refilledAt_refill]
  refine ⟨?_, max_le hb ht⟩
  rw [allowance_spend (by simp [hb, ht])]
  exact h.allowance_refill_le t.now latest

/-- **渡した量と、残りの渡せる量の和は、初めに渡せる量を超えない。** -/
theorem Sound.touch_allowance {latest : Nat} : ∀ {b : TokenBucket Rat} {ts : List Touch}, Sound b →
    b.refilledAt ≤ latest → (∀ t ∈ ts, t.now ≤ latest) →
    (b.touch ts).2 + (b.touch ts).1.allowance latest ≤ b.allowance latest
  | b, [], _, _, _ => by simp [TokenBucket.touch]
  | b, t :: ts, h, hb, hts => by
    obtain ⟨hstep, hlatest⟩ := h.apply_allowance hb (hts t List.mem_cons_self)
    have hrest := (h.apply t).touch_allowance hlatest fun t' ht' => hts t' (List.mem_cons_of_mem t ht')
    simp only [TokenBucket.touch]
    linarith

/-- 補っても容量を超えない。 -/
theorem level_refill_le (h : b.level ≤ b.capacity) (now : Nat) :
    (b.refill now).level ≤ b.capacity := by
  rcases Nat.lt_or_ge b.refilledAt now with hlt | hle
  · rw [refill_of_lt hlt]
    exact min_le_right _ _
  · rwa [refill_of_le hle]

/-- **負の量を求めなければ、残量は容量を超えない。** -/
theorem level_touch_le : ∀ {b : TokenBucket Rat} {ts : List Touch}, b.level ≤ b.capacity →
    (∀ t ∈ ts, 0 ≤ t.cost) →
    (b.touch ts).1.capacity = b.capacity ∧ (b.touch ts).1.level ≤ b.capacity
  | b, [], h, _ => ⟨rfl, h⟩
  | b, t :: ts, h, hts => by
    obtain ⟨heq, hgiven⟩ := t.apply_eq b
    have hpos : 0 ≤ (t.apply b).2 := by
      rcases hgiven with ⟨hcost, -⟩ | hzero
      · rw [hcost]
        exact hts t List.mem_cons_self
      · exact hzero.ge
    have hcapacity : (t.apply b).1.capacity = b.capacity := by simp [heq]
    have hlevel : (t.apply b).1.level ≤ b.capacity := by
      rw [heq, level_spend]
      exact (sub_le_self _ hpos).trans (level_refill_le h t.now)
    have hrest := level_touch_le (hlevel.trans hcapacity.ge) fun t' ht' =>
      hts t' (List.mem_cons_of_mem t ht')
    rwa [hcapacity] at hrest

/-- 作ってから触れた、最も後の時刻。 -/
def latest (created : Nat) (ts : List Touch) : Nat := (ts.map Touch.now).foldl max created

theorem created_le_latest (created : Nat) (ts : List Touch) : created ≤ latest created ts := by
  unfold latest
  generalize ts.map Touch.now = times
  induction times generalizing created with
  | nil => exact le_rfl
  | cons time times ih => exact (le_max_left created time).trans (ih _)

theorem le_latest {t : Touch} : ∀ (created : Nat) {ts : List Touch}, t ∈ ts →
    t.now ≤ latest created ts
  | created, t' :: ts, h => by
    rcases List.mem_cons.mp h with rfl | h
    · exact (le_max_right created t.now).trans (created_le_latest _ ts)
    · exact le_latest (max created t'.now) h

theorem capacity_perMinute {n : Nat} (hn : 1 ≤ n) (created : Nat) :
    (perMinute n created : TokenBucket Rat).capacity = n := by
  show ((max n 1 : Nat) : Rat) = n
  rw [max_eq_left hn]

theorem allowance_perMinute {n created v : Nat} (hv : created ≤ v) :
    (perMinute n created).allowance v
      = (perMinute n created : TokenBucket Rat).capacity
        + (perMinute n created : TokenBucket Rat).rate * seconds (v - created) := by
  have hfull : (perMinute n created : TokenBucket Rat).refilledAt ≤ v := hv
  rw [allowance, if_pos hfull, mul_comm]
  rfl

end TokenBucket

/-! ## 窓の中 -/

/-- 時刻 `u` から `v` までのことか。 -/
def within (u v : Nat) (time : Option Nat) : Bool := time.any fun t => u ≤ t && t ≤ v

namespace Gate

variable {g : Gate Rat} {cost : Rat} {sleep : Rat → Nat → Nat}

/-- 時刻 `u` から `v` までに渡せる量。 -/
def budget (g : Gate Rat) (u v : Nat) : Rat := (g.bucket.refill u).allowance v

/-- **鍵を待って取り出すと、渡せる量は、窓の中なら渡した分だけ減り、窓の外でも増えない。** -/
theorem Sound.pass_budget (hsleep : ∀ wait now, now ≤ sleep wait now) (h : g.Sound)
    (hcost : 0 ≤ cost) (now u v : Nat) :
    (if within u v (g.pass sleep cost now).2 then min cost g.bucket.capacity else 0)
      + (g.pass sleep cost now).1.budget u v ≤ g.budget u v := by
  rcases h.pass_cases hsleep cost now with ⟨free, done, hfree, hdone, hlevel, heq⟩ | heq
  · have hrefilled : (g.bucket.refill done).refilledAt = done := by
      rw [TokenBucket.refilledAt_refill]
      exact max_eq_right ((h.refilled free hfree).trans ((le_max_right _ _).trans hdone))
    have hrate := h.bucket.rate_pos.le
    have hless : 0 ≤ min cost g.bucket.capacity :=
      le_min hcost (zero_le_one.trans h.bucket.one_le_capacity)
    simp only [heq, within, budget, Option.any_some, Bool.and_eq_true, decide_eq_true_eq]
    rcases Nat.lt_or_ge done u with hu | hu
    · -- 窓より前に渡した。窓の初めまで補えば、渡さなかったときより多くはならない
      rw [if_neg fun hin => hu.not_ge hin.1, zero_add,
        ← TokenBucket.refill_refill hrate hu.le]
      exact TokenBucket.allowance_refill_spend_le hless u v
    · rw [TokenBucket.refill_of_le (b := (g.bucket.refill done).spend _) (by simp [hu])]
      rcases Nat.lt_or_ge v done with hv | hv
      · -- 窓より後に渡した。窓の中では、もう何も渡せない
        rw [if_neg fun hin => hv.not_ge hin.2, zero_add,
          TokenBucket.allowance_of_lt (by simp [hv])]
        exact (h.bucket.refill u).allowance_nonneg v
      · rw [if_pos ⟨hu, hv⟩, TokenBucket.allowance_spend (hrefilled.trans_le hv),
          ← TokenBucket.refill_refill hrate hu]
        exact (h.bucket.refill u).allowance_refill_le done v
  · simp only [heq, within, Option.any_none, Bool.false_eq_true, if_false, zero_add]
    exact le_rfl

/-- **満杯から始まる桶は、どの窓でも、容量と窓の間に補われる量の和より多くは渡せない。** -/
theorem budget_perMinute {n : Nat} (hn : 1 ≤ n) (created u length : Nat) :
    (perMinute n created : Gate Rat).budget u (u + length)
      ≤ n + n * TokenBucket.seconds length / 60 := by
  have hsound := TokenBucket.Sound.perMinute n created
  have hcapacity := TokenBucket.capacity_perMinute hn created
  have hlevel := TokenBucket.level_refill_le (b := TokenBucket.perMinute n created) le_rfl u
  have helapsed : u + length - max created u ≤ length := by omega
  have hgain := mul_le_mul_of_nonneg_right (TokenBucket.seconds_mono helapsed)
    hsound.rate_pos.le
  show ((TokenBucket.perMinute n created).refill u).allowance (u + length) ≤ _
  unfold TokenBucket.allowance
  rw [TokenBucket.refilledAt_refill, TokenBucket.rate_refill]
  rw [hsound.rate_eq, hcapacity] at hgain ⊢
  rw [hcapacity] at hlevel
  split
  · calc _ ≤ (n : Rat) + TokenBucket.seconds length * (n / 60) := add_le_add hlevel hgain
      _ = _ := by ring
  · have := TokenBucket.seconds_nonneg length
    positivity

end Gate

/-! ## 呼び出しを順に通す -/

namespace RateLimiter

variable {sleep : Rat → Nat → Nat} {r : RateLimiter Rat} {g : Gate Rat}

/-- 来た順に通したときの、どの呼び出しがいつ通ったか。 -/
def served (sleep : Rat → Nat → Nat) (r : RateLimiter Rat) : List Call → List (Call × Passage)
  | [] => []
  | c :: cs =>
    (c, (r.enter sleep c.count c.time).2) :: served sleep (r.enter sleep c.count c.time).1 cs

/-- **桶を一度通ると、窓の中で通ったなら取り出した分だけ、渡せる量が減る。** -/
theorem passThrough_budget (hsleep : ∀ wait now, now ≤ sleep wait now) (h : g.Sound) {cost : Rat}
    (hcost : 0 ≤ cost) (arrival : Option Nat) :
    ∃ g', (passThrough sleep cost (some g) arrival).1 = some g' ∧ g'.Sound
      ∧ g'.bucket.capacity = g.bucket.capacity
      ∧ ∀ u v, (if within u v (passThrough sleep cost (some g) arrival).2
          then min cost g.bucket.capacity else 0) + g'.budget u v ≤ g.budget u v := by
  cases arrival with
  | none => exact ⟨g, rfl, h, rfl, fun u v => by simp [passThrough, within]⟩
  | some now =>
    obtain ⟨hsound, hcapacity⟩ := h.pass hsleep cost now
    exact ⟨_, rfl, hsound, hcapacity, h.pass_budget hsleep hcost now⟩

/-- **窓の中で一つの桶から取り出された量の合計は、渡せる量より多くない。** `gate` はその桶、`cost` は
求める量、`arrival` は桶に来る時刻、`time` は取り出した時刻である。 -/
theorem charged_le_budget (hsleep : ∀ wait now, now ≤ sleep wait now)
    (gate : RateLimiter Rat → Option (Gate Rat)) (cost : Call → Rat)
    (arrival : RateLimiter Rat → Call → Option Nat) (time : Passage → Option Nat)
    (hcost : ∀ c, 0 ≤ cost c)
    (hstep : ∀ r c, (gate (r.enter sleep c.count c.time).1, time (r.enter sleep c.count c.time).2)
      = passThrough sleep (cost c) (gate r) (arrival r c)) (u v : Nat) :
    ∀ {r : RateLimiter Rat} {g : Gate Rat} (calls : List Call), gate r = some g → g.Sound →
    (((served sleep r calls).filter fun p => within u v (time p.2)).map fun p =>
      min (cost p.1) g.bucket.capacity).sum ≤ g.budget u v
  | r, g, [], _, h => by
    simpa [served, Gate.budget] using (h.bucket.refill u).allowance_nonneg v
  | r, g, c :: cs, hg, h => by
    obtain ⟨g', hg', hsound, hcapacity, hbudget⟩ :=
      passThrough_budget hsleep h (hcost c) (arrival r c)
    have heq := Prod.ext_iff.mp (hstep r c)
    rw [hg] at heq
    have hrest := charged_le_budget hsleep gate cost arrival time hcost hstep u v cs
      (heq.1.trans hg') hsound
    rw [hcapacity] at hrest
    rw [served, List.filter_cons]
    refine le_trans (le_of_eq ?_) ((add_le_add le_rfl hrest).trans (hbudget u v))
    rw [← heq.2]
    dsimp only
    split
    · rw [List.map_cons, List.sum_cons]
    · rw [zero_add]

/-- 窓の中で数えられた要求は、渡せる量より多くない。 -/
theorem counted_le_budget (hsleep : ∀ wait now, now ≤ sleep wait now) (u v : Nat)
    (calls : List Call) (hg : r.requests = some g) (h : g.Sound) :
    (((served sleep r calls).countP fun p => within u v p.2.counted : Nat) : Rat)
      ≤ g.budget u v := by
  have hsum := charged_le_budget hsleep RateLimiter.requests (fun _ => 1)
    (fun _ c => some c.time) Passage.counted (fun _ => zero_le_one) (fun _ _ => rfl) u v calls hg h
  simpa [min_eq_left h.bucket.one_le_capacity, List.countP_eq_length_filter] using hsum

/-- 窓の中で取り出された語数は、渡せる量より多くない。 -/
theorem spent_le_budget (hsleep : ∀ wait now, now ≤ sleep wait now) (u v : Nat)
    (calls : List Call) (hg : r.tokens = some g) (h : g.Sound) :
    (((served sleep r calls).filter fun p => within u v p.2.done).map fun p =>
      min (p.1.count : Rat) g.bucket.capacity).sum ≤ g.budget u v :=
  charged_le_budget hsleep RateLimiter.tokens (fun c => c.count)
    (fun r c => (passThrough sleep (nat 1) r.requests (some c.time)).2) Passage.done
    (fun c => Nat.cast_nonneg c.count) (fun _ _ => rfl) u v calls hg h

/--
**流量は上限を超えない。**

* 時計が戻らなければ、どれだけ眠るかによらず、呼び出しを来た順に通したとき、どの窓でも、数えられた要求は
  毎分の上限と、窓の間に補われる回数の和より多くない。取り出された語数（一度に上限まで）も同じである。
  呼び出しは重なっていてもよい。
* どの時刻に触れても、時刻が戻っても、残量は零から容量までに収まり、渡した量の合計は、容量と、触れた
  最も後の時刻までに補われる量の和を超えない。
-/
theorem limiter_within_budget {sleep : Rat → Nat → Nat}
    (hsleep : ∀ wait now, now ≤ sleep wait now) (requests tokens : Option Nat) (created : Nat) :
    (∀ n, requests = some n → 1 ≤ n → ∀ calls u length,
      (((served sleep (ofLimits requests tokens created) calls).countP fun p =>
        within u (u + length) p.2.counted : Nat) : Rat)
        ≤ n + n * TokenBucket.seconds length / 60)
    ∧ (∀ n, tokens = some n → 1 ≤ n → ∀ calls u length,
      (((served sleep (ofLimits requests tokens created) calls).filter fun p =>
        within u (u + length) p.2.done).map fun p => min (p.1.count : Rat) n).sum
        ≤ n + n * TokenBucket.seconds length / 60)
    ∧ ∀ (n : Nat) (touches : List TokenBucket.Touch), (∀ t ∈ touches, 0 ≤ t.cost) →
      let full : TokenBucket Rat := .perMinute n created
      0 ≤ (full.touch touches).1.level ∧ (full.touch touches).1.level ≤ full.capacity
        ∧ (full.touch touches).2 ≤ full.capacity
          + full.rate * TokenBucket.seconds (TokenBucket.latest created touches - created) := by
  refine ⟨fun n hlimit hn calls u length => ?_, fun n hlimit hn calls u length => ?_, ?_⟩
  · have hgate : (ofLimits requests tokens created : RateLimiter Rat).requests
        = some (Gate.perMinute n created) := by rw [hlimit]; rfl
    exact (counted_le_budget hsleep u _ calls hgate (.perMinute n created)).trans
      (Gate.budget_perMinute hn created u length)
  · have hgate : (ofLimits requests tokens created : RateLimiter Rat).tokens
        = some (Gate.perMinute n created) := by rw [hlimit]; rfl
    have hspent := (spent_le_budget hsleep u (u + length) calls hgate (.perMinute n created)).trans
      (Gate.budget_perMinute hn created u length)
    have hcapacity : (Gate.perMinute n created : Gate Rat).bucket.capacity = n :=
      TokenBucket.capacity_perMinute hn created
    rwa [hcapacity] at hspent
  · intro n touches hcosts full
    have hsound := TokenBucket.Sound.perMinute n created
    have hlatest := TokenBucket.created_le_latest created touches
    have htotal := hsound.touch_allowance hlatest fun t ht => TokenBucket.le_latest created ht
    rw [TokenBucket.allowance_perMinute hlatest] at htotal
    have hrest := (hsound.touch touches).allowance_nonneg (TokenBucket.latest created touches)
    exact ⟨(hsound.touch touches).level_nonneg, (TokenBucket.level_touch_le le_rfl hcosts).2,
      by linarith⟩

/-! ### 重なる呼び出しと戻る時計 -/

/-- 同じ時刻に来て重なる、三つの要求。 -/
def crowd : List Call := [⟨0, 5000⟩, ⟨0, 10⟩, ⟨0, 10⟩]

/-- 使い切ってから、時刻が戻る。 -/
def backwards : List TokenBucket.Touch := [.acquire 60 2000000000, .wait 1 1000000000, .acquire 1 0]

/-- 毎分二回、百語までなら、どの三十秒にも三回、百五十語を超えない。 -/
theorem limiter_within_budget_crowd :
    (∀ wait now, now ≤ sleepExactly wait now)
    ∧ (∀ t ∈ backwards, 0 ≤ t.cost)
    ∧ (∀ u, (((served sleepExactly (ofLimits (some 2) (some 100) 0) crowd).countP fun p =>
      within u (u + 30000000000) p.2.counted : Nat) : Rat) ≤ 3)
    ∧ (∀ u, (((served sleepExactly (ofLimits (some 2) (some 100) 0) crowd).filter fun p =>
      within u (u + 30000000000) p.2.done).map fun p => min (p.1.count : Rat) 100).sum ≤ 150)
    ∧ ((TokenBucket.perMinute 60 0).touch backwards).2 ≤ 62 := by
  have hhalf : (TokenBucket.seconds 30000000000 : Rat) = 30 := by
    rw [TokenBucket.seconds_eq]
    norm_num
  have hcosts : ∀ t ∈ backwards, 0 ≤ t.cost := by decide +kernel
  obtain ⟨hcounted, hspent, htotal⟩ :=
    limiter_within_budget le_sleepExactly (some 2) (some 100) 0
  refine ⟨le_sleepExactly, hcosts, fun u => ?_, fun u => ?_, ?_⟩
  · have h := hcounted 2 rfl (by decide) crowd u 30000000000
    rw [hhalf] at h
    norm_num at h
    exact_mod_cast h
  · have h := hspent 100 rfl (by decide) crowd u 30000000000
    rw [hhalf] at h
    norm_num at h
    exact h
  · have h := (htotal 60 backwards hcosts).2.2
    have hbound : (TokenBucket.perMinute 60 0 : TokenBucket Rat).capacity
        + (TokenBucket.perMinute 60 0 : TokenBucket Rat).rate
          * TokenBucket.seconds (TokenBucket.latest 0 backwards - 0) = 62 := by decide +kernel
    rwa [hbound] at h

end RateLimiter

end CodeSearch
