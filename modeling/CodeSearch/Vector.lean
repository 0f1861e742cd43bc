import CodeSearch.Chunk

/-!
# ベクトルの計算

計算はすべて単精度で、左から順に足す。空の和は負の零である。
測った結果は倍精度に広げて使う。広げても値は変わらない。
-/

namespace CodeSearch.Vec

/-- 左から順に足した和。 -/
def sum (xs : List Float32) : Float32 := xs.foldl (· + ·) (-0.0)

/-- 長さ。 -/
def norm (v : Vec) : Float32 := (sum (v.map fun x => x.toFloat32 * x.toFloat32)).sqrt

/-- 長さを 1 にする。長さが零か有限でなければそのままにする。 -/
def normalize (v : Vec) : Vec :=
  let n := norm v
  if n > 0 && n.isFinite then v.map fun x => .ofFloat32 (x.toFloat32 / n) else v

/-- 距離の二乗。長さが違うときは、短いほうまでで計算する。 -/
def squaredDistance (a b : Vec) : Float32 :=
  sum ((a.zip b).map fun p =>
    (p.1.toFloat32 - p.2.toFloat32) * (p.1.toFloat32 - p.2.toFloat32))

/-! ## 倍精度に広げる -/

/-- 符号を除いたビットを広げる。指数の下駄は 127 から 1023 に変わり、単精度で正規化できない小さな数も
倍精度では正規化できる。 -/
def widenMagnitude (exponent fraction : Nat) : Nat :=
  if exponent = 255 then 2047 * 4503599627370496 + fraction * 536870912
  else if exponent ≠ 0 then (exponent + 896) * 4503599627370496 + fraction * 536870912
  else if fraction = 0 then 0
  else
    let top := Nat.log2 fraction
    (top + 874) * 4503599627370496 + (fraction <<< (52 - top) - 4503599627370496)

/-- 単精度の数を倍精度に広げる。 -/
def widen (x : Float32) : Float :=
  let n := x.toBits.toNat
  .ofBits (.ofNat (n / 2147483648 * 9223372036854775808
    + widenMagnitude (n / 8388608 % 256) (n % 8388608)))

/-- 単精度で最も小さい正の数も、倍精度では 1 から始まる仮数をもつ。 -/
example : widenMagnitude 0 1 = 0x36a0000000000000 := by decide

end CodeSearch.Vec
