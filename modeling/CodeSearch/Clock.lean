import CodeSearch.Decimal

/-!
# 時計

時刻はナノ秒の自然数で数える。時計は眠るときだけ進み、ミリ秒の境で起きる。
-/

namespace CodeSearch

/-- 一ミリ秒のナノ秒。 -/
def nanosPerMilli : Nat := 1000000

/-- `wait` ナノ秒眠って起きる時刻。ミリ秒の境まで切り上げる。 -/
def wakeAt (now wait : Nat) : Nat := (now + wait + (nanosPerMilli - 1)) / nanosPerMilli * nanosPerMilli

/-- 早くは起きない。 -/
theorem add_le_wakeAt (now wait : Nat) : now + wait ≤ wakeAt now wait := by
  unfold wakeAt nanosPerMilli
  omega

/-- 秒を最も近いナノ秒にする。 -/
def secondsToNanos (x : Float) : Nat :=
  let (m, q) := Decimal.binary x
  let r := Decimal.ratio m q 1000000000
  Decimal.roundHalfEven r.1 r.2

/-- 待つ秒だけ眠る。一ミリ秒より短くは眠らない。 -/
def sleepSeconds (wait : Float) (now : Nat) : Nat :=
  wakeAt now (Nat.max (secondsToNanos wait) nanosPerMilli)

end CodeSearch
