import CodeSearch.Json

/-!
# JSON を読む

一文字ずつ字句に切り（`Lexer`）、字句を一つずつ積み上げて値にする（`Builder`）。
どちらも列の左からの畳み込みなので、停止性の議論はいらない。

受け付けるのは RFC 8259 の形だけである。そのうえで、次のものは拒む。

* 片方だけのサロゲート
* 倍精度で表せないほど大きな数
* 深さ 128 以上の入れ子
-/

namespace CodeSearch.Json

/-- 字句。 -/
inductive Token where
  | openArray | closeArray | openObject | closeObject | colon | comma
  | literal (j : Json)

/-! ## 数 -/

/-- 先頭の数字の並びと残り。 -/
def digits (cs : List Char) : List Char × List Char := cs.span Char.isDigit

/-- 数字の並びの値。 -/
def digitsValue (ds : List Char) : Nat := ds.foldl (fun n c => 10 * n + (c.toNat - '0'.toNat)) 0

/-- 整数部。零で始まるなら零だけである。 -/
def wholePart (cs : List Char) : Option (List Char × List Char) :=
  match digits cs with
  | ([], _) => none
  | ('0' :: _ :: _, _) => none
  | r => some r

/-- 小数部。なければ空である。 -/
def fractionPart : List Char → Option (List Char × List Char)
  | '.' :: cs =>
    match digits cs with
    | ([], _) => none
    | r => some r
  | cs => some ([], cs)

/-- 指数部。なければ `none` を返す。 -/
def exponentPart : List Char → Option (Option Int × List Char)
  | [] => some (none, [])
  | e :: cs =>
    if e = 'e' || e = 'E' then
      let (negative, cs) := match cs with
        | '-' :: rest => (true, rest)
        | '+' :: rest => (false, rest)
        | rest => (false, rest)
      match digits cs with
      | ([], _) => none
      | (ds, rest) =>
        let value : Int := digitsValue ds
        some (some (if negative then -value else value), rest)
    else some (none, e :: cs)

/-- 数を読む。全体が数でなければならない。 -/
def numeral? (cs : List Char) : Option Numeral := do
  let (negative, cs) := match cs with
    | '-' :: rest => (true, rest)
    | rest => (false, rest)
  let (whole, cs) ← wholePart cs
  let (fraction, cs) ← fractionPart cs
  let (exponent, cs) ← exponentPart cs
  if !cs.isEmpty then none
  else
    let n : Numeral :=
      { negative, mantissa := digitsValue (whole ++ fraction),
        exponent := exponent.getD 0 - fraction.length,
        integral := fraction.isEmpty && exponent.isNone }
    if n.magnitude.isInf then none else some n

/-- 引用符のない語を読む。 -/
def word? (cs : List Char) : Option Json :=
  if cs == "true".toList then some (.bool true)
  else if cs == "false".toList then some (.bool false)
  else if cs == "null".toList then some .null
  else (numeral? cs).map .number

/-! ## 字句 -/

/-- 字句の切り出しの途中の状態。溜めた文字は逆順で持つ。 -/
inductive LexState where
  /-- 字句の間。 -/
  | gap
  /-- 引用符のない語の途中。 -/
  | word (cs : List Char)
  /-- 文字列の途中。 -/
  | text (cs : List Char)
  /-- 逆斜線の直後。 -/
  | escape (cs : List Char)
  /-- 符号位置の十六進の途中。`high` は待っている前半のサロゲートである。 -/
  | hex (cs : List Char) (high : Option Nat) (value left : Nat)
  /-- 前半のサロゲートの直後。 -/
  | lowSlash (cs : List Char) (high : Nat)
  /-- 前半のサロゲートと逆斜線の直後。 -/
  | lowMark (cs : List Char) (high : Nat)

/-- 一文字の字句。 -/
def punctuation : Char → Option Token
  | '[' => some .openArray
  | ']' => some .closeArray
  | '\x7b' => some .openObject
  | '\x7d' => some .closeObject
  | ':' => some .colon
  | ',' => some .comma
  | _ => none

/-- JSON の空白か。 -/
def isGap (c : Char) : Bool := c == ' ' || c == '\t' || c == '\n' || c == '\r'

/-- 字句の間の一文字。 -/
def gapStep (c : Char) : List Token × LexState :=
  if isGap c then ([], .gap)
  else if c = '"' then ([], .text [])
  else
    match punctuation c with
    | some t => ([t], .gap)
    | none => ([], .word [c])

/-- 逆斜線に続く一文字が表す文字。 -/
def escaped : Char → Option Char
  | '"' => some '"'
  | '\\' => some '\\'
  | '/' => some '/'
  | 'b' => some '\x08'
  | 'f' => some '\x0c'
  | 'n' => some '\n'
  | 'r' => some '\r'
  | 't' => some '\t'
  | _ => none

/-- 十六進の一桁。 -/
def hexDigit? (c : Char) : Option Nat :=
  if '0' ≤ c ∧ c ≤ '9' then some (c.toNat - '0'.toNat)
  else if 'a' ≤ c ∧ c ≤ 'f' then some (c.toNat - 'a'.toNat + 10)
  else if 'A' ≤ c ∧ c ≤ 'F' then some (c.toNat - 'A'.toNat + 10)
  else none

/-- 四桁の十六進を読み終えた後の状態。 -/
def hexClosed (cs : List Char) (high : Option Nat) (value : Nat) : Option LexState :=
  match high with
  | some h =>
    if 0xDC00 ≤ value ∧ value < 0xE000 then
      some (.text (Char.ofNat (0x10000 + (h - 0xD800) * 0x400 + (value - 0xDC00)) :: cs))
    else none
  | none =>
    if 0xD800 ≤ value ∧ value < 0xDC00 then some (.lowSlash cs value)
    else if 0xDC00 ≤ value ∧ value < 0xE000 then none
    else some (.text (Char.ofNat value :: cs))

/-- 一文字進める。 -/
def lexStep (c : Char) : LexState → Option (List Token × LexState)
  | .gap => some (gapStep c)
  | .word cs =>
    if isGap c || c == '"' || (punctuation c).isSome then do
      let j ← word? cs.reverse
      let (ts, s) := gapStep c
      some (.literal j :: ts, s)
    else some ([], .word (c :: cs))
  | .text cs =>
    if c = '"' then some ([.literal (.string (String.ofList cs.reverse))], .gap)
    else if c = '\\' then some ([], .escape cs)
    else if c.toNat < 0x20 then none
    else some ([], .text (c :: cs))
  | .escape cs =>
    if c = 'u' then some ([], .hex cs none 0 4)
    else (escaped c).map fun d => ([], .text (d :: cs))
  | .hex cs high value left => do
    let d ← hexDigit? c
    let value := value * 16 + d
    if left ≤ 1 then (hexClosed cs high value).map fun s => ([], s)
    else some ([], .hex cs high value (left - 1))
  | .lowSlash cs high => if c = '\\' then some ([], .lowMark cs high) else none
  | .lowMark cs high => if c = 'u' then some ([], .hex cs (some high) 0 4) else none

/-- 字句に切る。結果は逆順に溜める。 -/
def lexFrom (out : List Token) : LexState → List Char → Option (List Token)
  | .gap, [] => some out.reverse
  | .word cs, [] => (word? cs.reverse).map fun j => (.literal j :: out).reverse
  | _, [] => none
  | s, c :: rest =>
    match lexStep c s with
    | none => none
    | some (ts, next) => lexFrom (ts.reverse ++ out) next rest

/-! ## 積み上げ -/

/-- 閉じていない入れ子。要素は逆順で持つ。 -/
inductive Frame where
  | items (done : List Json)
  | members (done : List (String × Json)) (key : String)

/-- 次に来るべきもの。 -/
inductive Want where
  /-- 値。閉じてもよければ `closable` である。 -/
  | value (closable : Bool)
  /-- 名前。閉じてもよければ `closable` である。 -/
  | key (closable : Bool)
  | colon
  /-- 区切りか閉じ。 -/
  | separator
  /-- 何も来てはならない。 -/
  | nothing (result : Json)

/-- 積み上げの途中の状態。 -/
structure Builder where
  want : Want
  stack : List Frame

/-- 入れ子の深さの上限。 -/
def maxDepth : Nat := 128

/-- 値が一つできた後の状態。 -/
def place (j : Json) : List Frame → Builder
  | [] => ⟨.nothing j, []⟩
  | .items done :: rest => ⟨.separator, .items (j :: done) :: rest⟩
  | .members done key :: rest => ⟨.separator, .members ((key, j) :: done) "" :: rest⟩

/-- 入れ子を開く。 -/
def opened (f : Frame) (want : Want) (stack : List Frame) : Option Builder :=
  if stack.length + 1 < maxDepth then some ⟨want, f :: stack⟩ else none

/-- 字句を一つ積む。 -/
def build (b : Builder) (t : Token) : Option Builder :=
  match b.want, t, b.stack with
  | .value _, .literal j, stack => some (place j stack)
  | .value _, .openArray, stack => opened (.items []) (.value true) stack
  | .value _, .openObject, stack => opened (.members [] "") (.key true) stack
  | .value true, .closeArray, .items done :: stack => some (place (.array done.reverse) stack)
  | .key _, .literal (.string key), .members done _ :: stack =>
    some ⟨.colon, .members done key :: stack⟩
  | .key true, .closeObject, .members done _ :: stack =>
    some (place (.object done.reverse) stack)
  | .colon, .colon, stack => some ⟨.value false, stack⟩
  | .separator, .comma, .items done :: stack => some ⟨.value false, .items done :: stack⟩
  | .separator, .comma, .members done key :: stack => some ⟨.key false, .members done key :: stack⟩
  | .separator, .closeArray, .items done :: stack => some (place (.array done.reverse) stack)
  | .separator, .closeObject, .members done _ :: stack =>
    some (place (.object done.reverse) stack)
  | _, _, _ => none

/-- JSON の値を読む。 -/
def parse? (s : String) : Option Json := do
  let tokens ← lexFrom [] .gap s.toList
  let b ← tokens.foldlM build ⟨.value false, []⟩
  match b.want with
  | .nothing j => some j
  | _ => none

end CodeSearch.Json
