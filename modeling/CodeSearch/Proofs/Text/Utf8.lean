import CodeSearch.Proofs.Text.LetterCase
import CodeSearch.Text.Utf8

/-!
# UTF-8 として読んだ文字

ASCII のバイトは、読みかけの文字を切り、それ自身の文字に読まれる。だから、ASCII の区切りでつないだバイトの列は、
区切りの前と後を別々に読める。逆に、ASCII の文字に読まれるのは、そのバイトだけである。

* `decodeFrom_append_ascii` — ASCII のバイトの前と後は、別々に読める
* `mem_of_mem_decodeFrom` — NUL を除く ASCII の文字は、そのバイトからしか読めない
* `decode_encode` — 文字の列を書いたバイトの列は、元の文字の列に読める
-/

namespace CodeSearch.Text.Utf8

/-! ## ASCII の文字 -/

theorem start_of_lt {b : Nat} (h : b < 0x80) : start b = ([Char.ofNat b], none) := if_pos h

/-- ASCII のバイトは、続きのバイトではない。 -/
theorem feed?_of_lt (o : Owed) {b : Nat} (h : b < 0x80) : o.feed? b = none :=
  dif_neg fun hrange => absurd o.tail.1 (by omega)

/-- ASCII のバイトは、読みかけの文字を切る。 -/
theorem step_of_lt (state : Option Owed) {b : UInt8} (h : b.toNat < 0x80) :
    step state b = (cut state ++ [Char.ofNat b.toNat], none) := by
  have hfeed : state.bind (·.feed? b.toNat) = none := by
    cases state with
    | none => rfl
    | some o => exact feed?_of_lt o h
  unfold step
  rw [hfeed, start_of_lt h]

/-- **ASCII のバイトの前と後は、別々に読める。** -/
theorem decodeFrom_append_ascii {b : UInt8} (h : b.toNat < 0x80) (after : List UInt8) :
    ∀ (before : List UInt8) (state : Option Owed), decodeFrom state (before ++ b :: after)
      = decodeFrom state before ++ Char.ofNat b.toNat :: decode after
  | [], state => by
    show (step state b).1 ++ decodeFrom (step state b).2 after = _
    rw [step_of_lt state h, List.append_assoc]
    rfl
  | c :: before, state => by
    show (step state c).1 ++ decodeFrom (step state c).2 (before ++ b :: after) = _
    rw [decodeFrom_append_ascii h after before, decodeFrom, List.append_assoc]

/-- 先頭のバイトから出てくる ASCII の文字は、そのバイトの文字である。 -/
theorem eq_of_mem_start {b : Nat} {c : Char} (h : c ∈ (start b).1) (hc : c.toNat < 0x80) :
    b = c.toNat := by
  have hnot : c ≠ replacement := by
    rintro rfl
    exact absurd hc (by decide)
  unfold start at h
  split at h
  · next hlt =>
    rw [List.mem_singleton.mp h, toNat_ofNat (Or.inl (by omega))]
  · repeat' split at h
    all_goals simp [hnot] at h

/-- 読み終えた値は 0x80 以上なので、NUL を除く ASCII の文字ではない。 -/
theorem not_mem_feed? {o : Owed} {b : Nat} {next : List Char × Option Owed}
    (h : o.feed? b = some next) {c : Char} (hc : c.toNat < 0x80) (hne : c.toNat ≠ 0) :
    c ∉ next.1 := by
  intro hmem
  unfold Owed.feed? at h
  split at h
  · next hrange =>
    cases hmore : o.more with
    | zero =>
      simp only [hmore, Option.some.injEq] at h
      subst h
      have hlong := o.long.1 hmore
      rw [List.mem_singleton.mp hmem] at hc hne
      by_cases hvalid : (o.value * 0x40 + b % 0x40).isValidChar
      · rw [toNat_ofNat hvalid] at hc
        omega
      · -- 文字にならない値は NUL に読まれる
        rw [Char.ofNat, dif_neg hvalid] at hne
        exact hne rfl
    | succ more =>
      simp only [hmore, Option.some.injEq] at h
      subst h
      exact List.not_mem_nil hmem
  · cases h

/-- **NUL を除く ASCII の文字は、そのバイトからしか読めない。** -/
theorem mem_of_mem_decodeFrom {c : Char} (hc : c.toNat < 0x80) (hne : c.toNat ≠ 0) :
    ∀ {bs : List UInt8} {state : Option Owed}, c ∈ decodeFrom state bs →
      UInt8.ofNat c.toNat ∈ bs := by
  have hcut : ∀ state, c ∉ cut state := by
    intro state hmem
    unfold cut at hmem
    split at hmem
    · rw [List.mem_singleton.mp hmem] at hc
      exact absurd hc (by decide)
    · exact List.not_mem_nil hmem
  intro bs
  induction bs with
  | nil => exact fun hmem => absurd hmem (hcut _)
  | cons b bs ih =>
    intro state hmem
    rw [decodeFrom, List.mem_append] at hmem
    rcases hmem with hmem | hmem
    · unfold step at hmem
      split at hmem
      · next next hnext =>
        obtain ⟨o, -, hfeed⟩ := Option.bind_eq_some_iff.mp hnext
        exact absurd hmem (not_mem_feed? hfeed hc hne)
      · rcases List.mem_append.mp hmem with hmem | hmem
        · exact absurd hmem (hcut state)
        · rw [← eq_of_mem_start hmem hc, UInt8.ofNat_toNat]
          exact List.mem_cons_self
    · exact List.mem_cons_of_mem b (ih hmem)

/-! ## 書いた文字を読み戻すこと -/

/-- 続きのバイトであること。 -/
def IsTail (b : UInt8) : Prop := 0x80 ≤ b.toNat ∧ b.toNat ≤ 0xBF

/-- 続きのバイトを読み終えた値。 -/
def valueOf (value : Nat) : List UInt8 → Nat
  | [] => value
  | b :: tails => valueOf (value * 0x40 + b.toNat % 0x40) tails

theorem valueOf_cons (value : Nat) (b : UInt8) (tails : List UInt8) :
    valueOf value (b :: tails) = valueOf (value * 0x40 + b.toNat % 0x40) tails := rfl

/-- 続くバイトがまだあれば、読んだところまでの値に一つ足して、次のバイトを待つ。 -/
theorem feed?_of_more {o : Owed} {more b : Nat} (hb : o.least ≤ b ∧ b ≤ o.most)
    (hmore : o.more = more + 1) : ∃ next : Owed, o.feed? b = some ([], some next)
      ∧ next.value = o.value * 0x40 + b % 0x40 ∧ next.more = more
      ∧ next.least = 0x80 ∧ next.most = 0xBF := by
  obtain ⟨value, _, least, most, tail, long⟩ := o
  subst hmore
  exact ⟨_, dif_pos hb, rfl, rfl, rfl, rfl⟩

/-- 最後のバイトで、一つの文字になる。 -/
theorem feed?_of_last {o : Owed} {b : Nat} (hb : o.least ≤ b ∧ b ≤ o.most) (hmore : o.more = 0) :
    o.feed? b = some ([Char.ofNat (o.value * 0x40 + b % 0x40)], none) := by
  obtain ⟨value, _, least, most, tail, long⟩ := o
  subst hmore
  exact dif_pos hb

/-- **続きのバイトがそろえば、一つの文字になる。** -/
theorem decodeFrom_tails (rest : List UInt8) : ∀ (tails : List UInt8) (o : Owed) (b : UInt8),
    o.least ≤ b.toNat ∧ b.toNat ≤ o.most → (∀ t ∈ tails, IsTail t) → o.more = tails.length →
    decodeFrom (some o) (b :: tails ++ rest)
      = Char.ofNat (valueOf o.value (b :: tails)) :: decode rest
  | [], o, b, hb, _, hmore => by
    have hstep : step (some o) b = ([Char.ofNat (valueOf o.value [b])], none) := by
      rw [step, Option.bind_some, feed?_of_last hb hmore]
      rfl
    show (step (some o) b).1 ++ decodeFrom (step (some o) b).2 rest = _
    rw [hstep]
    rfl
  | t :: tails, o, b, hb, htails, hmore => by
    obtain ⟨ht, htails⟩ := List.forall_mem_cons.mp htails
    obtain ⟨next, hfeed, hvalue, hnext, hleast, hmost⟩ := feed?_of_more hb hmore
    have hstep : step (some o) b = ([], some next) := by
      rw [step, Option.bind_some, hfeed]
    have hrest := decodeFrom_tails rest tails next t (by rw [hleast, hmost]; exact ht) htails hnext
    have hvalueOf : valueOf next.value (t :: tails) = valueOf o.value (b :: t :: tails) := by
      rw [hvalue]
      exact (valueOf_cons o.value b (t :: tails)).symm
    show (step (some o) b).1 ++ decodeFrom (step (some o) b).2 (t :: tails ++ rest) = _
    rw [hstep, List.nil_append, hrest, hvalueOf]

/-- 二つのバイトの文字の先頭。 -/
theorem start_two {b : Nat} (h : 0xC2 ≤ b ∧ b ≤ 0xDF) : ∃ o : Owed, start b = ([], some o)
    ∧ o.value = b - 0xC0 ∧ o.more = 0 ∧ o.least = 0x80 ∧ o.most = 0xBF := by
  rw [start, if_neg (by omega), dif_pos h]
  exact ⟨_, rfl, rfl, rfl, rfl, rfl⟩

/-- 三つのバイトの文字の先頭。短く書ける値と代用の値を書けないよう、二つ目のバイトの範囲が狭い。 -/
theorem start_three {b : Nat} (h : 0xE0 ≤ b ∧ b ≤ 0xEF) : ∃ o : Owed, start b = ([], some o)
    ∧ o.value = b - 0xE0 ∧ o.more = 1 ∧ o.least = (if b = 0xE0 then 0xA0 else 0x80)
    ∧ o.most = (if b = 0xED then 0x9F else 0xBF) := by
  rw [start, if_neg (by omega), dif_neg (by omega)]
  by_cases hlow : b = 0xE0
  · subst hlow
    exact ⟨_, rfl, rfl, rfl, rfl, rfl⟩
  · by_cases hsurrogate : b = 0xED
    · subst hsurrogate
      exact ⟨_, rfl, rfl, rfl, rfl, rfl⟩
    · rw [if_neg hlow, if_neg hsurrogate, dif_pos (by omega)]
      exact ⟨_, rfl, rfl, rfl, (if_neg hlow).symm, (if_neg hsurrogate).symm⟩

/-- 四つのバイトの文字の先頭。短く書ける値と大きすぎる値を書けないよう、二つ目のバイトの範囲が狭い。 -/
theorem start_four {b : Nat} (h : 0xF0 ≤ b ∧ b ≤ 0xF4) : ∃ o : Owed, start b = ([], some o)
    ∧ o.value = b - 0xF0 ∧ o.more = 2 ∧ o.least = (if b = 0xF0 then 0x90 else 0x80)
    ∧ o.most = (if b = 0xF4 then 0x8F else 0xBF) := by
  rw [start, if_neg (by omega), dif_neg (by omega), if_neg (by omega), if_neg (by omega),
    dif_neg (by omega)]
  by_cases hlow : b = 0xF0
  · subst hlow
    exact ⟨_, rfl, rfl, rfl, rfl, rfl⟩
  · by_cases hhigh : b = 0xF4
    · subst hhigh
      exact ⟨_, rfl, rfl, rfl, rfl, rfl⟩
    · rw [if_neg hlow, if_neg hhigh, dif_pos (by omega)]
      exact ⟨_, rfl, rfl, rfl, (if_neg hlow).symm, (if_neg hhigh).symm⟩

/-- 先頭のバイトの後に、続きのバイトがそろえば、一つの文字になる。 -/
theorem decode_lead {lead : UInt8} {o : Owed} (hstart : start lead.toNat = ([], some o)) {b : UInt8}
    (hb : o.least ≤ b.toNat ∧ b.toNat ≤ o.most) {tails : List UInt8}
    (htails : ∀ t ∈ tails, IsTail t) (hmore : o.more = tails.length) (rest : List UInt8) :
    decode (lead :: b :: tails ++ rest)
      = Char.ofNat (valueOf o.value (b :: tails)) :: decode rest := by
  have hstep : step none lead = ([], some o) := by
    rw [step, Option.bind_none, hstart]
    rfl
  show (step none lead).1 ++ decodeFrom (step none lead).2 (b :: tails ++ rest) = _
  rw [hstep]
  exact decodeFrom_tails rest tails o b hb htails hmore

theorem toNat_byte {n : Nat} (h : n < 0x100) : (UInt8.ofNat n).toNat = n :=
  UInt8.toNat_ofNat_of_lt' h

/-- 6 ビットを書いた続きのバイト。 -/
def tailOf (n : Nat) : UInt8 := UInt8.ofNat (n % 0x40 + 0x80)

theorem toNat_tailOf (n : Nat) : (tailOf n).toNat = n % 0x40 + 0x80 := toNat_byte (by omega)

theorem isTail_tailOf (n : Nat) : IsTail (tailOf n) := by
  unfold IsTail
  rw [toNat_tailOf]
  omega

/-- 二つのバイトに書いた文字。 -/
theorem decode_two {n : Nat} (h : 0x80 ≤ n ∧ n < 0x800) (rest : List UInt8) :
    decode (UInt8.ofNat (n / 0x40 % 0x20 + 0xC0) :: tailOf n :: rest)
      = Char.ofNat n :: decode rest := by
  obtain ⟨o, hstart, hvalue, hmore, hleast, hmost⟩ :=
    start_two (b := n / 0x40 % 0x20 + 0xC0) (by omega)
  rw [← toNat_byte (by omega : n / 0x40 % 0x20 + 0xC0 < 0x100)] at hstart
  have hsecond : o.least ≤ (tailOf n).toNat ∧ (tailOf n).toNat ≤ o.most := by
    rw [hleast, hmost]
    exact isTail_tailOf n
  have htails : ∀ t ∈ ([] : List UInt8), IsTail t := nofun
  have hread := decode_lead hstart hsecond htails hmore rest
  rw [valueOf_cons, valueOf, toNat_tailOf, hvalue] at hread
  rwa [show (n / 0x40 % 0x20 + 0xC0 - 0xC0) * 0x40 + (n % 0x40 + 0x80) % 0x40 = n by omega] at hread

/-- 三つのバイトに書いた文字。 -/
theorem decode_three {n : Nat} (h : 0x800 ≤ n ∧ n < 0x10000) (hvalid : n < 0xD800 ∨ 0xDFFF < n)
    (rest : List UInt8) :
    decode (UInt8.ofNat (n / 0x1000 % 0x10 + 0xE0) :: tailOf (n / 0x40) :: tailOf n :: rest)
      = Char.ofNat n :: decode rest := by
  obtain ⟨o, hstart, hvalue, hmore, hleast, hmost⟩ :=
    start_three (b := n / 0x1000 % 0x10 + 0xE0) (by omega)
  rw [← toNat_byte (by omega : n / 0x1000 % 0x10 + 0xE0 < 0x100)] at hstart
  have hsecond : o.least ≤ (tailOf (n / 0x40)).toNat ∧ (tailOf (n / 0x40)).toNat ≤ o.most := by
    rw [hleast, hmost, toNat_tailOf]
    split <;> split <;> omega
  have htails : ∀ t ∈ [tailOf n], IsTail t := List.forall_mem_singleton.mpr (isTail_tailOf n)
  have hread := decode_lead hstart hsecond htails hmore rest
  rw [valueOf_cons, valueOf_cons, valueOf, toNat_tailOf, toNat_tailOf, hvalue] at hread
  rwa [show ((n / 0x1000 % 0x10 + 0xE0 - 0xE0) * 0x40 + (n / 0x40 % 0x40 + 0x80) % 0x40) * 0x40
    + (n % 0x40 + 0x80) % 0x40 = n by omega] at hread

/-- 四つのバイトに書いた文字。 -/
theorem decode_four {n : Nat} (h : 0x10000 ≤ n ∧ n < 0x110000) (rest : List UInt8) :
    decode (UInt8.ofNat (n / 0x40000 % 0x8 + 0xF0) :: tailOf (n / 0x1000) :: tailOf (n / 0x40)
      :: tailOf n :: rest) = Char.ofNat n :: decode rest := by
  obtain ⟨o, hstart, hvalue, hmore, hleast, hmost⟩ :=
    start_four (b := n / 0x40000 % 0x8 + 0xF0) (by omega)
  rw [← toNat_byte (by omega : n / 0x40000 % 0x8 + 0xF0 < 0x100)] at hstart
  have hsecond : o.least ≤ (tailOf (n / 0x1000)).toNat ∧ (tailOf (n / 0x1000)).toNat ≤ o.most := by
    rw [hleast, hmost, toNat_tailOf]
    split <;> split <;> omega
  have htails : ∀ t ∈ [tailOf (n / 0x40), tailOf n], IsTail t :=
    List.forall_mem_cons.mpr ⟨isTail_tailOf _, List.forall_mem_singleton.mpr (isTail_tailOf n)⟩
  have hread := decode_lead hstart hsecond htails hmore rest
  rw [valueOf_cons, valueOf_cons, valueOf_cons, valueOf, toNat_tailOf, toNat_tailOf, toNat_tailOf,
    hvalue] at hread
  rwa [show (((n / 0x40000 % 0x8 + 0xF0 - 0xF0) * 0x40 + (n / 0x1000 % 0x40 + 0x80) % 0x40) * 0x40
    + (n / 0x40 % 0x40 + 0x80) % 0x40) * 0x40 + (n % 0x40 + 0x80) % 0x40 = n by omega] at hread

/-- **一つの文字を書いたバイトは、その文字に読める。** -/
theorem decode_encodeChar (c : Char) (rest : List UInt8) :
    decode (String.utf8EncodeChar c ++ rest) = c :: decode rest := by
  have hvalid : c.toNat < 0xD800 ∨ 0xDFFF < c.toNat ∧ c.toNat < 0x110000 := c.valid
  have hchar : Char.ofNat c.toNat = c := Char.ofNat_toNat c
  unfold String.utf8EncodeChar
  rw [show c.val.toNat = c.toNat from rfl]
  generalize c.toNat = n at hvalid hchar
  subst hchar
  simp only []
  split
  · next h =>
    have hread := decodeFrom_append_ascii (b := UInt8.ofNat n) (by rw [toNat_byte] <;> omega) rest
      [] none
    rwa [toNat_byte (by omega)] at hread
  split
  · next hone h => exact decode_two (by omega) rest
  split
  · next hone htwo h => exact decode_three (by omega) (by omega) rest
  · next hone htwo hthree => exact decode_four (by omega) rest

/-- **文字の列を書いたバイトの列は、元の文字の列に読める。** -/
theorem decode_encode (cs : List Char) : decode (encode cs) = cs := by
  unfold encode
  induction cs with
  | nil => rfl
  | cons c cs ih => rw [List.flatMap_cons, decode_encodeChar, ih]

end CodeSearch.Text.Utf8
