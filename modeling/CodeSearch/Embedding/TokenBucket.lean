import CodeSearch.Quantity

/-!
# 流量の制限

桶は満杯から始まり、毎分、容量と同じだけ一様に補われる。補うのは桶に触れたときだけでよい。
触れた時刻が前より戻っていれば、何も補わない。

足りないときは、不足分が補われるまで眠る。正確な計算では一度眠れば足りる。
倍精度では丸めのために足りないことがあるので、眠り直す。眠り直す回数に上限はない。

桶には鍵があり、眠る間も放さない。呼び出しが重なれば、来た順に鍵を待つ。

時刻はナノ秒の自然数、残量と秒は `Quantity` である。
-/

namespace CodeSearch

open Quantity

/-- 残量の桶。 -/
structure TokenBucket (α : Type) where
  capacity : α
  /-- 一秒に補われる量。 -/
  rate : α
  level : α
  /-- 最後に補った時刻。 -/
  refilledAt : Nat

namespace TokenBucket

variable {α : Type} [Quantity α]

/-- 毎分 `n` だけ補われる満杯の桶。`n` が 0 なら 1 とみなす。 -/
def perMinute (n : Nat) (now : Nat) : TokenBucket α :=
  let capacity : α := nat (Nat.max n 1)
  { capacity, rate := capacity / nat 60, level := capacity, refilledAt := now }

/-- ナノ秒の秒への換算。 -/
def seconds (nanos : Nat) : α :=
  nat (nanos / 1000000000) + nat (nanos % 1000000000) / nat 1000000000

/-- 時刻 `now` まで補う。 -/
def refill (b : TokenBucket α) (now : Nat) : TokenBucket α :=
  let elapsed : α := seconds (now - b.refilledAt)
  if lt (nat 0) elapsed then
    { b with level := Quantity.min (b.level + elapsed * b.rate) b.capacity, refilledAt := now }
  else b

/-- 足りていれば取り出す。 -/
def tryAcquire (b : TokenBucket α) (cost : α) (now : Nat) : Bool × TokenBucket α :=
  let b := b.refill now
  if le cost b.level then (true, { b with level := b.level - cost }) else (false, b)

/-- 足りるまでの秒。足りていれば零である。 -/
def waitTime (b : TokenBucket α) (cost : α) (now : Nat) : α × TokenBucket α :=
  let b := b.refill now
  let deficit := cost - b.level
  if le deficit (nat 0) then (nat 0, b) else (deficit / b.rate, b)

/-- 足りるまで眠り直して取り出す。`sleep` は待つ秒と今の時刻から、起きる時刻を決める。
いつまでも足りなければ終わらない。 -/
def draw? (sleep : α → Nat → Nat) (cost : α) (b : TokenBucket α) (now : Nat) :
    Option (TokenBucket α × Nat) :=
  match b.tryAcquire cost now with
  | (true, b) => some (b, now)
  | (false, b) =>
    let (wait, b) := b.waitTime cost now
    b |>.draw? sleep cost (sleep wait now)
partial_fixpoint

/-- 取り出す。容量を超える分は求めない。 -/
def take? (sleep : α → Nat → Nat) (b : TokenBucket α) (cost : α) (now : Nat) :
    Option (TokenBucket α × Nat) :=
  draw? sleep (Quantity.min cost b.capacity) b now

end TokenBucket

/-- 鍵のついた桶。 -/
structure Gate (α : Type) where
  bucket : TokenBucket α
  /-- 鍵が空く時刻。終わらない呼び出しが持っていれば、空かない。 -/
  free : Option Nat

namespace Gate

variable {α : Type} [Quantity α]

/-- 毎分 `n` だけ補われる満杯の桶。鍵は空いている。 -/
def perMinute (n : Nat) (now : Nat) : Gate α := { bucket := .perMinute n now, free := some now }

/-- 時刻 `now` に来て、鍵を待って取り出し、放す。返すのは放した時刻である。 -/
def pass (sleep : α → Nat → Nat) (g : Gate α) (cost : α) (now : Nat) : Gate α × Option Nat :=
  match g.free with
  | none => (g, none)
  | some free =>
    match g.bucket.take? sleep cost (Nat.max now free) with
    | some (bucket, done) => ({ bucket, free := some done }, some done)
    | none => ({ g with free := none }, none)

end Gate

/-- 要求の回数と語数の制限。ない制限は待たない。 -/
structure RateLimiter (α : Type) where
  requests : Option (Gate α) := none
  tokens : Option (Gate α) := none

/-- 制限を通った時刻。終わらないところには時刻がない。 -/
structure Passage where
  /-- 要求の回数を取り出した時刻。 -/
  counted : Option Nat
  /-- 語数も取り出して、通り終わった時刻。 -/
  done : Option Nat

namespace RateLimiter

variable {α : Type} [Quantity α]

/-- 毎分の上限から作る。 -/
def ofLimits (requests tokens : Option Nat) (now : Nat) : RateLimiter α :=
  { requests := requests.map (Gate.perMinute · now),
    tokens := tokens.map (Gate.perMinute · now) }

/-- 制限があるか。 -/
def isLimited (r : RateLimiter α) : Bool := r.requests.isSome || r.tokens.isSome

/-- 桶があれば通る。来なければ何も起きない。 -/
def passThrough (sleep : α → Nat → Nat) (cost : α) :
    (gate : Option (Gate α)) → (arrival : Option Nat) → Option (Gate α) × Option Nat
  | some g, some now => let (g, done) := g.pass sleep cost now; (some g, done)
  | gate, arrival => (gate, arrival)

/-- 時刻 `now` に来た `count` 語の要求を通す。 -/
def enter (sleep : α → Nat → Nat) (r : RateLimiter α) (count : Nat) (now : Nat) :
    RateLimiter α × Passage :=
  let (requests, counted) := passThrough sleep (nat 1) r.requests (some now)
  let (tokens, done) := passThrough sleep (nat count) r.tokens counted
  ({ requests, tokens }, { counted, done })

/-- `count` 語の要求を一つ送れるまで待つ。通り終わらなければ、時刻は進まない。 -/
def acquire (sleep : α → Nat → Nat) (r : RateLimiter α) (count : Nat) (now : Nat) :
    RateLimiter α × Nat :=
  let (r, passage) := r.enter sleep count now
  (r, passage.done.getD now)

end RateLimiter

end CodeSearch
