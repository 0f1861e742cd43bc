import CodeSearch.Decimal
import CodeSearch.Json

/-!
# JSON を書く

値を文字列にする。書き方は、詰めたもの（`Json.compact`）と、字下げしたもの（`Json.pretty`）がある。
文字列の中では、引用符・逆斜線・制御文字だけを逃がす。
-/

namespace CodeSearch.Json

/-- 十六進の一桁。 -/
def hexChar (n : Nat) : Char := if n < 10 then Char.ofNat (48 + n) else Char.ofNat (87 + n)

/-- 文字列の中の一文字。 -/
def escapeChar (c : Char) : List Char :=
  if c = '"' then ['\\', '"']
  else if c = '\\' then ['\\', '\\']
  else if c = '\n' then ['\\', 'n']
  else if c = '\r' then ['\\', 'r']
  else if c = '\t' then ['\\', 't']
  else if c = '\x08' then ['\\', 'b']
  else if c = '\x0c' then ['\\', 'f']
  else if c.toNat < 0x20 then
    ['\\', 'u', '0', '0', hexChar (c.toNat / 16), hexChar (c.toNat % 16)]
  else [c]

/-- 引用符で囲んだ文字列。 -/
def quote (s : String) : String := "\"" ++ String.ofList (s.toList.flatMap escapeChar) ++ "\""

/-- 数の書き方。小数や指数のある数は、小数点を置いて書く。 -/
def numeralText (n : Numeral) : String :=
  (if n.negative then "-" else "")
    ++ (if n.integral then toString n.mantissa else Decimal.positional ⟨n.mantissa, n.exponent⟩)

/-- 倍精度の値。有限でなければ `null` になる。 -/
def ofFloat (x : Float) : Json :=
  if x.isFinite then
    let d := Decimal.shortest x
    .number { negative := Decimal.isNegative x, mantissa := d.digits, exponent := d.exponent,
              integral := false }
  else .null

mutual

/-- 詰めた書き方。 -/
def compact : Json → String
  | .null => "null"
  | .bool b => if b then "true" else "false"
  | .number n => numeralText n
  | .string s => quote s
  | .array items => "[" ++ ",".intercalate (compactItems items) ++ "]"
  | .object members => "\x7b" ++ ",".intercalate (compactMembers members) ++ "\x7d"

/-- 要素の詰めた書き方。 -/
def compactItems : List Json → List String
  | [] => []
  | j :: rest => compact j :: compactItems rest

/-- 成分の詰めた書き方。 -/
def compactMembers : List (String × Json) → List String
  | [] => []
  | (k, j) :: rest => (quote k ++ ":" ++ compact j) :: compactMembers rest

end

/-- 深さ `depth` の行頭。一段は空白二つである。 -/
def newLine (depth : Nat) : String := "\n" ++ String.ofList (List.replicate (2 * depth) ' ')

/-- 入れ子を字下げして囲む。空なら一行に詰める。 -/
def bracket (opening closing : String) (depth : Nat) (parts : List String) : String :=
  if parts.isEmpty then opening ++ closing
  else
    opening ++ newLine (depth + 1) ++ ("," ++ newLine (depth + 1)).intercalate parts
      ++ newLine depth ++ closing

mutual

/-- 深さ `depth` での字下げした書き方。 -/
def prettyAt (depth : Nat) : Json → String
  | .null => "null"
  | .bool b => if b then "true" else "false"
  | .number n => numeralText n
  | .string s => quote s
  | .array items => bracket "[" "]" depth (prettyItems (depth + 1) items)
  | .object members => bracket "\x7b" "\x7d" depth (prettyMembers (depth + 1) members)

/-- 要素の字下げした書き方。 -/
def prettyItems (depth : Nat) : List Json → List String
  | [] => []
  | j :: rest => prettyAt depth j :: prettyItems depth rest

/-- 成分の字下げした書き方。 -/
def prettyMembers (depth : Nat) : List (String × Json) → List String
  | [] => []
  | (k, j) :: rest => (quote k ++ ": " ++ prettyAt depth j) :: prettyMembers depth rest

end

/-- 字下げした書き方。 -/
def pretty (j : Json) : String := prettyAt 0 j

end CodeSearch.Json
