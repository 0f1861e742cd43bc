/-!
# JSON の値

JSON の値を表す。数は読んだとおりの十進数 `Numeral` で持ち、倍精度に直すのは使う側である。
こうすると、64 ビットの整数も負の零も失われない。

オブジェクトは書かれた順の組の列である。同じ名前が二度あることもある。
-/

namespace CodeSearch

/-- 十進数。`mantissa * 10 ^ exponent` に符号を付けたものである。 -/
structure Numeral where
  negative : Bool := false
  mantissa : Nat
  exponent : Int := 0
  /-- 小数点も指数もない書き方か。 -/
  integral : Bool := true
  deriving DecidableEq, Repr

namespace Numeral

/-- 自然数の書き方。 -/
def ofNat (n : Nat) : Numeral := { mantissa := n }

/-- 整数の書き方。 -/
def ofInt (i : Int) : Numeral := { negative := i < 0, mantissa := i.natAbs }

/-- 自然数なら、その値。 -/
def toNat? (n : Numeral) : Option Nat :=
  if n.integral && (!n.negative || n.mantissa == 0) then some n.mantissa else none

/-- 整数なら、その値。 -/
def toInt? (n : Numeral) : Option Int :=
  if n.integral then some (if n.negative then -(n.mantissa : Int) else n.mantissa) else none

/-- 十進の桁数。 -/
def digitCount (n : Numeral) : Nat := (toString n.mantissa).length

/-- 大きさだけの倍精度。表せる範囲をはるかに超えるものは、無限大か零にする。 -/
def magnitude (n : Numeral) : Float :=
  if n.mantissa = 0 then 0
  else if n.exponent + n.digitCount > 400 then 1.0 / 0.0
  else if n.exponent + n.digitCount < -400 then 0
  else Float.ofScientific n.mantissa (n.exponent < 0) n.exponent.natAbs

/-- もっとも近い倍精度。負の零を保つ。 -/
def toFloat (n : Numeral) : Float := if n.negative then -n.magnitude else n.magnitude

end Numeral

/-- JSON の値。 -/
inductive Json where
  | null
  | bool (b : Bool)
  | number (n : Numeral)
  | string (s : String)
  | array (items : List Json)
  | object (members : List (String × Json))
  deriving Inhabited

namespace Json

/-- 自然数の値。 -/
def nat (n : Nat) : Json := .number (.ofNat n)

/-- 整数の値。 -/
def int (i : Int) : Json := .number (.ofInt i)

/-- 値がなければ `null`。 -/
def ofOption (f : α → Json) : Option α → Json
  | some a => f a
  | none => .null

/-- 文字列の列。 -/
def strings (ss : List String) : Json := .array (ss.map .string)

/-- オブジェクトの成分。`null` はないものとみなす。 -/
def field? (j : Json) (name : String) : Option Json :=
  match j with
  | .object members =>
    match members.lookup name with
    | some .null => none
    | other => other
  | _ => none

/-- 文字列なら、その値。 -/
def string? : Json → Option String
  | .string s => some s
  | _ => none

/-- 真偽値なら、その値。 -/
def bool? : Json → Option Bool
  | .bool b => some b
  | _ => none

/-- 自然数なら、その値。 -/
def nat? : Json → Option Nat
  | .number n => n.toNat?
  | _ => none

/-- 整数なら、その値。 -/
def int? : Json → Option Int
  | .number n => n.toInt?
  | _ => none

/-- 配列なら、その要素。 -/
def array? : Json → Option (List Json)
  | .array items => some items
  | _ => none

end Json

end CodeSearch
