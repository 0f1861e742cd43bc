/-!
# 時刻

時刻は 1970 年からのナノ秒で持ち、協定世界時の RFC 3339 の形で書く。
暦の計算は、三月を年の初めとみなした 400 年の周期で行う。
-/

namespace CodeSearch.Timestamp

/-- 時刻のミリ秒。端数は切り捨てる。 -/
def millis (nanos : Int) : Int := nanos.fdiv 1000000

/-- ミリ秒の時刻。 -/
def ofMillis (millis : Int) : Int := millis * 1000000

/-- 桁を零で埋めた数。 -/
def padded (width n : Nat) : String :=
  let s := toString n
  String.ofList (List.replicate (width - s.length) '0') ++ s

/-- 1970 年からの日数の、年・月・日。 -/
def civil (days : Int) : Int × Nat × Nat :=
  let z := days + 719468
  let era := z.fdiv 146097
  let d := (z - era * 146097).toNat
  let y := (d - d / 1460 + d / 36524 - d / 146096) / 365
  let inYear := d - (365 * y + y / 4 - y / 100)
  let m := (5 * inYear + 2) / 153
  let month := if m < 10 then m + 3 else m - 9
  (era * 400 + y + (if month ≤ 2 then 1 else 0), month, inYear - (153 * m + 2) / 5 + 1)

/-- 年の表記。四桁に収まらない年には符号を付ける。 -/
def yearText (year : Int) : String :=
  if 0 ≤ year ∧ year ≤ 9999 then padded 4 year.toNat
  else (if year < 0 then "-" else "+") ++ padded 4 year.natAbs

/-- 秒の端数の表記。三桁、六桁、九桁のうち、落とすもののない最も短いものを選ぶ。 -/
def fractionText (nanos : Nat) : String :=
  if nanos = 0 then ""
  else if nanos % 1000000 = 0 then "." ++ padded 3 (nanos / 1000000)
  else if nanos % 1000 = 0 then "." ++ padded 6 (nanos / 1000)
  else "." ++ padded 9 nanos

/-- 時刻の表記。 -/
def text (nanos : Int) : String :=
  let (year, month, day) := civil (nanos.fdiv 86400000000000)
  let inDay := (nanos.fmod 86400000000000).toNat
  let seconds := inDay / 1000000000
  yearText year ++ "-" ++ padded 2 month ++ "-" ++ padded 2 day
    ++ "T" ++ padded 2 (seconds / 3600) ++ ":" ++ padded 2 (seconds / 60 % 60)
    ++ ":" ++ padded 2 (seconds % 60)
    ++ fractionText (inDay % 1000000000) ++ "Z"

/-- 数え始めの時刻。 -/
example : text 0 = "1970-01-01T00:00:00Z" := by decide +kernel

/-- うるう年の二月の終わりの、一ミリ秒前。 -/
example : text 1709251199999000000 = "2024-02-29T23:59:59.999Z" := by decide +kernel

end CodeSearch.Timestamp
