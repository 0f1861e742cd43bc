import CodeSearch.Json.Reader
import CodeSearch.Toml

/-!
# TOML の一つの値

文字列・整数・小数・真偽値・日付の読み方である。どれも、読めたときは値と残りを返す。

* 文字列は四通りある。一行か複数行か、逃がすか逃がさないかである。
* 数と日付は、続く文字を一まとまりに取り出してから、全体の形で決める。
-/

namespace CodeSearch.Toml

/-! ## 文字 -/

/-- 行の中の空白。 -/
def isSpace (c : Char) : Bool := c == ' ' || c == '\t'

/-- 空白を飛ばす。 -/
def skipSpaces (cs : List Char) : List Char := cs.dropWhile isSpace

/-- 文字列や注釈に、そのまま書ける文字か。 -/
def isPlain (c : Char) : Bool := c == '\t' || (0x20 ≤ c.toNat && c.toNat != 0x7F)

/-- 改行を一つ読む。 -/
def newline? : List Char → Option (List Char)
  | '\n' :: rest => some rest
  | '\r' :: '\n' :: rest => some rest
  | _ => none

/-! ## 文字列 -/

/-- 十六進の数を `n` 桁読む。 -/
def hexValue : Nat → Nat → List Char → Option (Nat × List Char)
  | 0, value, cs => some (value, cs)
  | n + 1, value, c :: cs => do hexValue n (16 * value + (← Json.hexDigit? c)) cs
  | _ + 1, _, [] => none

/-- 符号位置の文字。サロゲートと範囲の外は文字ではない。 -/
def scalar? (n : Nat) : Option Char :=
  if n < 0xD800 ∨ (0xDFFF < n ∧ n < 0x110000) then some (Char.ofNat n) else none

/-- 逆斜線に続く部分の文字。 -/
def escape? : List Char → Option (Char × List Char)
  | 'b' :: cs => some ('\x08', cs)
  | 't' :: cs => some ('\t', cs)
  | 'n' :: cs => some ('\n', cs)
  | 'f' :: cs => some ('\x0c', cs)
  | 'r' :: cs => some ('\r', cs)
  | '"' :: cs => some ('"', cs)
  | '\\' :: cs => some ('\\', cs)
  | 'u' :: cs => do
    let (n, cs) ← hexValue 4 0 cs
    return (← scalar? n, cs)
  | 'U' :: cs => do
    let (n, cs) ← hexValue 8 0 cs
    return (← scalar? n, cs)
  | _ => none

/-- 行末の逆斜線の後ろを、次の文字まで飛ばす。改行がなければ読めない。 -/
def skipFold (cs : List Char) : Option (List Char) :=
  (newline? (skipSpaces cs)).map fun rest =>
    rest.dropWhile fun c => isSpace c || c == '\n' || c == '\r'

/-- 文字列の種類。 -/
structure Quoting where
  mark : Char
  escapes : Bool
  multiline : Bool

/-- 閉じる印を読む。複数行では、印が三つ続けば閉じ、余りの二つまでは中身である。 -/
def closing (q : Quoting) (out : List Char) (cs : List Char) : Option (String × List Char) :=
  let run := (cs.takeWhile (· == q.mark)).length
  if !q.multiline then
    if 1 ≤ run then some (String.ofList out.reverse, cs.drop 1) else none
  else if 3 ≤ run && run ≤ 5 then
    some (String.ofList (List.replicate (run - 3) q.mark ++ out).reverse, cs.drop run)
  else none

/-- 文字列の中身を読む。`out` は読んだ文字を逆順にしたもので、`fuel` は残りの文字数の上限である。 -/
def stringBody (q : Quoting) :
    (fuel : Nat) → (out : List Char) → List Char → Option (String × List Char)
  | 0, _, _ => none
  | _ + 1, _, [] => none
  | fuel + 1, out, c :: cs =>
    if c = q.mark then
      match closing q out (c :: cs) with
      | some r => some r
      | none =>
        if q.multiline && ((c :: cs).takeWhile (· == q.mark)).length ≤ 2 then
          stringBody q fuel (c :: out) cs
        else none
    else if c = '\\' && q.escapes then
      match escape? cs with
      | some (d, rest) => stringBody q fuel (d :: out) rest
      | none =>
        if q.multiline then
          match skipFold cs with
          | some rest => stringBody q fuel out rest
          | none => none
        else none
    else
      match newline? (c :: cs) with
      | some rest => if q.multiline then stringBody q fuel ('\n' :: out) rest else none
      | none => if isPlain c then stringBody q fuel (c :: out) cs else none

/-- 一行の文字列。鍵にも使う。 -/
def lineString? (cs : List Char) : Option (String × List Char) :=
  match cs with
  | '"' :: rest => stringBody ⟨'"', true, false⟩ cs.length [] rest
  | '\'' :: rest => stringBody ⟨'\'', false, false⟩ cs.length [] rest
  | _ => none

/-- 複数行の文字列の、始まりの直後の改行を飛ばす。 -/
def skipFirstNewline (cs : List Char) : List Char := (newline? cs).getD cs

/-- 文字列。 -/
def string? (cs : List Char) : Option (String × List Char) :=
  match cs with
  | '"' :: '"' :: '"' :: rest =>
    stringBody ⟨'"', true, true⟩ cs.length [] (skipFirstNewline rest)
  | '\'' :: '\'' :: '\'' :: rest =>
    stringBody ⟨'\'', false, true⟩ cs.length [] (skipFirstNewline rest)
  | _ => lineString? cs

/-! ## 数 -/

/-- 下線は数字の間にだけ書ける。下線を除いた数字の並びを返す。 -/
def digitRun (isDigit : Char → Bool) : List Char → Option (List Char)
  | [] => none
  | [d] => if isDigit d then some [d] else none
  | d :: '_' :: rest =>
    if isDigit d then (digitRun isDigit rest).map (d :: ·) else none
  | d :: rest => if isDigit d then (digitRun isDigit rest).map (d :: ·) else none

/-- 符号を取り分ける。 -/
def sign : List Char → Bool × List Char
  | '-' :: rest => (true, rest)
  | '+' :: rest => (false, rest)
  | rest => (false, rest)

/-- 余分な零で始まらない十進の並び。 -/
def wholeDigits (cs : List Char) : Option (List Char) := do
  let ds ← digitRun Char.isDigit cs
  match ds with
  | '0' :: _ :: _ => none
  | _ => some ds

/-- 基数を書いた整数。 -/
def radix? (base : Nat) (cs : List Char) : Option Nat := do
  let ok := fun c => (Json.hexDigit? c).any (· < base)
  let ds ← digitRun ok cs
  return ds.foldl (fun n c => base * n + (Json.hexDigit? c).getD 0) 0

/-- 64 ビットに収まる整数だけを認める。 -/
def bounded (i : Int) : Option Int :=
  let bound := Int.ofNat (Nat.pow 2 63)
  if -bound ≤ i ∧ i < bound then some i else none

/-- 整数。 -/
def integer? (cs : List Char) : Option Int :=
  match cs with
  | '0' :: 'x' :: ds => (radix? 16 ds).bind fun n => bounded n
  | '0' :: 'o' :: ds => (radix? 8 ds).bind fun n => bounded n
  | '0' :: 'b' :: ds => (radix? 2 ds).bind fun n => bounded n
  | _ => do
    let (negative, ds) := sign cs
    let n : Int := Json.digitsValue (← wholeDigits ds)
    bounded (if negative then -n else n)

/-- 指数の前と後ろに分ける。 -/
def splitExponent (cs : List Char) : List Char × Option (List Char) :=
  match cs.span (fun c => c != 'e' && c != 'E') with
  | (front, _ :: back) => (front, some back)
  | (front, []) => (front, none)

/-- 小数点の前と後ろに分ける。 -/
def splitPoint (cs : List Char) : List Char × Option (List Char) :=
  match cs.span (· != '.') with
  | (front, _ :: back) => (front, some back)
  | (front, []) => (front, none)

/-- あれば読み、読めなければ失敗する。 -/
def optionally {α : Type} (read : List Char → Option α) : Option (List Char) → Option (Option α)
  | none => some none
  | some cs => (read cs).map some

/-- 指数の値。 -/
def exponent? (cs : List Char) : Option Int := do
  let (negative, ds) := sign cs
  let n : Int := Json.digitsValue (← digitRun Char.isDigit ds)
  return if negative then -n else n

/-- 小数。小数点か指数がなければ整数である。 -/
def decimal? (cs : List Char) : Option Float := do
  let (negative, body) := sign cs
  let (front, exponent) := splitExponent body
  let (whole, fraction) := splitPoint front
  if exponent.isNone && fraction.isNone then none
  else
    let whole ← wholeDigits whole
    let fraction := (← optionally (digitRun Char.isDigit) fraction).getD []
    let exponent := (← optionally exponent? exponent).getD 0
    let n : Numeral :=
      { negative, mantissa := Json.digitsValue (whole ++ fraction),
        exponent := exponent - fraction.length, integral := false }
    let x := n.toFloat
    if x.isInf && !negative then none else some x

/-- 無限大と非数。 -/
def special? (cs : List Char) : Option Float :=
  let (negative, body) := sign cs
  if body == "inf".toList then some (if negative then -1.0 / 0.0 else 1.0 / 0.0)
  else if body == "nan".toList then some (0.0 / 0.0)
  else none

/-! ## 日付と時刻 -/

/-- 決まった桁数の数。 -/
def fixedDigits (n : Nat) (cs : List Char) : Option (Nat × List Char) :=
  let ds := cs.take n
  if ds.length = n && ds.all Char.isDigit then some (Json.digitsValue ds, cs.drop n) else none

/-- 決まった文字を読み飛ばす。 -/
def expect (c : Char) : List Char → Option (List Char)
  | d :: rest => if d = c then some rest else none
  | [] => none

/-- 月の日数。 -/
def monthDays (year month : Nat) : Nat :=
  if month = 2 then
    if year % 4 = 0 && (year % 100 != 0 || year % 400 = 0) then 29 else 28
  else if month = 4 || month = 6 || month = 9 || month = 11 then 30
  else 31

/-- 日付を読み、残りを返す。 -/
def date? (cs : List Char) : Option (List Char) := do
  let (year, cs) ← fixedDigits 4 cs
  let (month, cs) ← fixedDigits 2 (← expect '-' cs)
  let (day, cs) ← fixedDigits 2 (← expect '-' cs)
  if 1 ≤ month ∧ month ≤ 12 ∧ 1 ≤ day ∧ day ≤ monthDays year month then some cs else none

/-- 時刻を読み、残りを返す。 -/
def time? (cs : List Char) : Option (List Char) := do
  let (hour, cs) ← fixedDigits 2 cs
  let (minute, cs) ← fixedDigits 2 (← expect ':' cs)
  let (second, cs) ← fixedDigits 2 (← expect ':' cs)
  if hour ≤ 23 ∧ minute ≤ 59 ∧ second ≤ 60 then
    match cs with
    | '.' :: rest =>
      let fraction := rest.takeWhile Char.isDigit
      if fraction.isEmpty then none else some (rest.drop fraction.length)
    | _ => some cs
  else none

/-- 時差を読む。何も残ってはならない。 -/
def offset? : List Char → Bool
  | [] => true
  | ['Z'] | ['z'] => true
  | c :: cs =>
    if c = '+' || c = '-' then
      (do
        let (hour, cs) ← fixedDigits 2 cs
        let (minute, cs) ← fixedDigits 2 (← expect ':' cs)
        return hour ≤ 23 && minute ≤ 59 && cs.isEmpty).getD false
    else false

/-- 全体が日付か時刻か、その両方か。 -/
def isDatetime (cs : List Char) : Bool :=
  match date? cs with
  | some [] => true
  | some (c :: rest) =>
    (c = 'T' || c = 't' || c = ' ') && ((time? rest).map offset?).getD false
  | none => (time? cs).any List.isEmpty

/-! ## 引用符のない値 -/

/-- 引用符のない値に現れる文字か。 -/
def isAtomChar (c : Char) : Bool :=
  c.isAlphanum || c == '_' || c == '+' || c == '-' || c == '.' || c == ':'

/-- 日付と時刻が空白で分かれているときの、後ろの部分。 -/
def spacedTime (front rest : List Char) : List Char :=
  match rest with
  | ' ' :: d :: e :: ':' :: _ =>
    if front.length = 10 && (date? front).any List.isEmpty && d.isDigit && e.isDigit then
      ' ' :: (rest.drop 1).takeWhile isAtomChar
    else []
  | _ => []

/-- 一まとまりの文字の値。 -/
def atomValue (cs : List Char) : Option Toml :=
  if cs == "true".toList then some (.boolean true)
  else if cs == "false".toList then some (.boolean false)
  else if isDatetime cs then some (.datetime (String.ofList cs))
  else
    match integer? cs with
    | some i => some (.integer i)
    | none => ((decimal? cs).or (special? cs)).map .float

/-- 引用符のない値を読む。 -/
def atom? (cs : List Char) : Option (Toml × List Char) :=
  let front := cs.takeWhile isAtomChar
  let back := spacedTime front (cs.drop front.length)
  let written := front ++ back
  (atomValue written).map fun v => (v, cs.drop written.length)

end CodeSearch.Toml
