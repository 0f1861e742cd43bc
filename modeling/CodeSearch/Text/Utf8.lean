/-!
# UTF-8 として読む

正しい UTF-8 とは限らないバイトの列を、文字の列に読む。

文字の先頭のバイトを読むと、続くバイトの数と、次のバイトの範囲が決まる（`Owed`）。二つ目のバイトの範囲は
狭いことがある。短く書ける値を長く書いた列と、代用の範囲や上限を超える値の列は、それで除かれる。

範囲の外のバイトが来たら、そこまでのバイトは一つの `replacement` に変わり、来たバイトは次の文字の先頭として
読み直す。先頭になれないバイトは、それだけで一つの `replacement` になる。
-/

namespace CodeSearch.Text.Utf8

/-- 読めない並びの代わりに置く文字。 -/
def replacement : Char := '\uFFFD'

/-- 読みかけの文字。 -/
structure Owed where
  /-- 読んだところまでの値。 -/
  value : Nat
  /-- 次のバイトの後に、なお続くバイトの数。 -/
  more : Nat
  /-- 次のバイトの範囲。 -/
  least : Nat := 0x80
  most : Nat := 0xBF
  /-- 続くバイトは 0x80 から 0xBF までのどれかである。 -/
  tail : 0x80 ≤ least ∧ most ≤ 0xBF := by decide
  /-- 読み終えた値が 0x80 より小さくなることはない。 -/
  long : (more = 0 → 2 ≤ value) ∧ 2 ≤ value * 0x40 + (least - 0x80) := by omega

/-- 文字の先頭のバイトを読む。出てくる文字と、読みかけの文字を返す。 -/
def start (b : Nat) : List Char × Option Owed :=
  if b < 0x80 then ([Char.ofNat b], none)
  else if _h : 0xC2 ≤ b ∧ b ≤ 0xDF then ([], some { value := b - 0xC0, more := 0 })
  else if b = 0xE0 then ([], some { value := 0x0, more := 1, least := 0xA0 })
  else if b = 0xED then ([], some { value := 0xD, more := 1, most := 0x9F })
  else if _h : 0xE1 ≤ b ∧ b ≤ 0xEF then ([], some { value := b - 0xE0, more := 1 })
  else if b = 0xF0 then ([], some { value := 0x0, more := 2, least := 0x90 })
  else if b = 0xF4 then ([], some { value := 0x4, more := 2, most := 0x8F })
  else if _h : 0xF1 ≤ b ∧ b ≤ 0xF3 then ([], some { value := b - 0xF0, more := 2 })
  else ([replacement], none)

/-- 続きのバイトを足した値も、読み終えて 0x80 より小さくなることはない。 -/
theorem Owed.long_feed (o : Owed) {b : Nat} (h : o.least ≤ b ∧ b ≤ o.most) (more : Nat) :
    (more = 0 → 2 ≤ o.value * 0x40 + b % 0x40)
      ∧ 2 ≤ (o.value * 0x40 + b % 0x40) * 0x40 + (0x80 - 0x80) := by
  have hlong := o.long.2
  have htail := o.tail
  omega

/-- 読みかけの文字に、続きのバイトを足す。範囲の外のバイトは続きではない。 -/
def Owed.feed? (o : Owed) (b : Nat) : Option (List Char × Option Owed) :=
  if h : o.least ≤ b ∧ b ≤ o.most then
    let value := o.value * 0x40 + b % 0x40
    some <|
      match o.more with
      | 0 => ([Char.ofNat value], none)
      | more + 1 => ([], some { value, more, long := o.long_feed h more })
  else none

/-- 途中で切れた文字の代わりに出てくる文字。 -/
def cut (state : Option Owed) : List Char := if state.isSome then [replacement] else []

/-- 一つのバイトを読む。続きでないバイトは、新しい文字の先頭である。 -/
def step (state : Option Owed) (b : UInt8) : List Char × Option Owed :=
  match state.bind (·.feed? b.toNat) with
  | some next => next
  | none => (cut state ++ (start b.toNat).1, (start b.toNat).2)

/-- 残りのバイトを読む。 -/
def decodeFrom (state : Option Owed) : List UInt8 → List Char
  | [] => cut state
  | b :: bs => (step state b).1 ++ decodeFrom (step state b).2 bs

/-- バイトの列を文字の列に読む。 -/
def decode (bs : List UInt8) : List Char := decodeFrom none bs

/-- 文字の列を書いたバイトの列。 -/
def encode (cs : List Char) : List UInt8 := cs.flatMap String.utf8EncodeChar

end CodeSearch.Text.Utf8
