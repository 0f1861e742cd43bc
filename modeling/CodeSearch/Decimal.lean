/-!
# 倍精度の十進表記

倍精度を、仮数と二の指数に分けて正確に扱う。丸めはすべて自然数の計算で行う。

* `Decimal.shortest` は、読み戻すと元に戻る最も短い十進を返す。同じ長さなら近いほうをとる。
* `Decimal.fixed` は、小数点以下の桁数を決めた表記である。ちょうど半分なら偶数にする。
* `Decimal.roundHalfEven` は、割り算を最も近い自然数に丸める。
-/

namespace CodeSearch

/-- 十進数 `digits * 10 ^ exponent`。 -/
structure Decimal where
  digits : Nat
  exponent : Int
  deriving DecidableEq, Repr

namespace Decimal

/-- 割り算を最も近い自然数に丸める。ちょうど半分なら偶数にする。 -/
def roundHalfEven (num den : Nat) : Nat :=
  let q := num / den
  let r := num % den
  if 2 * r < den then q
  else if den < 2 * r then q + 1
  else q + q % 2

/-- 有限な倍精度の大きさの、仮数と二の指数。 -/
def binary (x : Float) : Nat × Int :=
  let bits : Nat := x.toBits.toNat
  let exponent : Nat := bits / Nat.pow 2 52 % 2048
  let fraction : Nat := bits % Nat.pow 2 52
  if exponent = 0 then (fraction, -1074) else (fraction + Nat.pow 2 52, (exponent : Int) - 1075)

/-- 負の符号が付いているか。 -/
def isNegative (x : Float) : Bool := x.toBits.toNat / Nat.pow 2 63 == 1

/-- `m * 2 ^ q * scale` を、分子と分母で表す。 -/
def ratio (m : Nat) (q : Int) (scale : Nat) : Nat × Nat :=
  (m * Nat.pow 2 q.toNat * scale, Nat.pow 2 (-q).toNat)

/-- `m * 2 ^ q` の整数部の桁数。1 より小さいときは零か負である。 -/
def magnitude (m : Nat) (q : Int) : Int :=
  let r := ratio m q (Nat.pow 10 400)
  ((toString (r.1 / r.2)).length : Int) - 400

/-- `m * 2 ^ q` を `10 ^ k` で割った商。 -/
def gridFloor (m : Nat) (q k : Int) : Nat :=
  (m * Nat.pow 2 q.toNat * Nat.pow 10 (-k).toNat)
    / (Nat.pow 2 (-q).toNat * Nat.pow 10 k.toNat)

/-- `d * 10 ^ k` と `b * 2 ^ q` を、同じ分母に直した分子。 -/
def aligned (d : Nat) (k : Int) (b : Nat) (q : Int) : Nat × Nat :=
  (d * Nat.pow 10 k.toNat * Nat.pow 2 (-q).toNat,
    b * Nat.pow 2 q.toNat * Nat.pow 10 (-k).toNat)

/-- `d * 10 ^ k` が `m * 2 ^ q` に読み戻るか。端は仮数が偶数のときだけ含む。 -/
def readsBack (m : Nat) (q : Int) (d : Nat) (k : Int) : Bool :=
  let lower := if m = Nat.pow 2 52 && q != -1074 then 4 * m - 1 else 4 * m - 2
  let low := aligned d k lower (q - 2)
  let high := aligned d k (4 * m + 2) (q - 2)
  if m % 2 = 0 then low.2 ≤ low.1 && high.1 ≤ high.2 else low.2 < low.1 && high.1 < high.2

/-- `10 ^ k` の刻みで、読み戻る近いほう。 -/
def onGrid (m : Nat) (q k : Int) : Option Decimal :=
  let d := gridFloor m q k
  let low := aligned d k m q
  let high := aligned (d + 1) k m q
  let order := if high.1 - high.2 < low.2 - low.1 then [d + 1, d] else [d, d + 1]
  (order.find? fun c => readsBack m q c k).map fun c => ⟨c, k⟩

/-- 後ろの零を指数に移す。 -/
def trimZeros (d : Decimal) : Nat → Decimal
  | 0 => d
  | n + 1 =>
    if d.digits != 0 && d.digits % 10 = 0 then trimZeros ⟨d.digits / 10, d.exponent + 1⟩ n else d

/-- 読み戻すと元に戻る、最も短い十進。 -/
def shortest (x : Float) : Decimal :=
  let (m, q) := binary x
  if m = 0 then ⟨0, 0⟩
  else
    let e := magnitude m q
    let found := (List.range 17).findSome? fun n => onGrid m q (e - (n + 1 : Nat))
    trimZeros (found.getD ⟨gridFloor m q (e - 17), e - 17⟩) 20

/-- 桁の間に小数点を置く。指数が小さいか大きいときは、指数を書く。 -/
def positional (d : Decimal) : String :=
  let ds := toString d.digits
  let point : Int := ds.length + d.exponent
  if 0 ≤ d.exponent && point ≤ 16 then
    ds ++ String.ofList (List.replicate d.exponent.toNat '0') ++ ".0"
  else if 0 < point && point ≤ 16 then
    String.ofList (ds.toList.take point.toNat) ++ "." ++ String.ofList (ds.toList.drop point.toNat)
  else if -5 < point && point ≤ 0 then
    "0." ++ String.ofList (List.replicate (-point).toNat '0') ++ ds
  else
    let whole := String.ofList (ds.toList.take 1)
    let rest := String.ofList (ds.toList.drop 1)
    whole ++ (if rest.isEmpty then "" else "." ++ rest) ++ "e" ++ toString (point - 1)

/-- 有限な倍精度の、最も短い表記。 -/
def text (x : Float) : String :=
  (if isNegative x then "-" else "") ++ positional (shortest x)

/-- 小数点以下を `places` 桁にした表記。 -/
def fixed (x : Float) (places : Nat) : String :=
  let (m, q) := binary x
  let scale := Nat.pow 10 places
  let r := ratio m q scale
  let n := roundHalfEven r.1 r.2
  let whole := toString (n / scale)
  let fraction := toString (n % scale)
  let padding := String.ofList (List.replicate (places - fraction.length) '0')
  (if isNegative x then "-" else "") ++ whole
    ++ (if places = 0 then "" else "." ++ padding ++ fraction)

end Decimal

end CodeSearch
