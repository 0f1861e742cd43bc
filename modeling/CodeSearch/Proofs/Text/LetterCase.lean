import CodeSearch.Text.Alphanumeric
import CodeSearch.Text.LetterCase

/-!
# 小文字にした文字

小文字にする表は、文字をそのままにするか、`a` 以後の文字に移す。だから小文字にしても、
記号や空白のような `a` より前の文字は新しく現れない。

* `mem_lowerChars` — 小文字にした文字は、元の文字か `a` 以後の文字である
* `mem_lowercase` — 文字列を小文字にしても同じである
* `lowerChars_of_lt` — ASCII の文字は、ASCII の小文字になる
* `lowerChars_ascii` — ASCII の英数字は、小文字にすると ASCII の小文字か数字になる
-/

namespace CodeSearch.Text

/-- ASCII の文字について調べるには、128 個を調べればよい。 -/
theorem forall_ascii {P : Char → Prop} (h : ∀ n ∈ List.range 128, P (Char.ofNat n)) {c : Char}
    (hc : c.toNat < 128) : P c := by
  have hall := h c.toNat (List.mem_range.mpr hc)
  rwa [Char.ofNat_toNat] at hall

theorem toNat_ofNat {n : Nat} (h : n.isValidChar) : (Char.ofNat n).toNat = n := by
  unfold Char.ofNat
  rw [dif_pos h]
  rfl

/-! ## 表 -/

/-- 写した符号位置は、元のままか、覆う区間の分だけずれる。 -/
theorem ShiftRun.apply_cases (runs : List ShiftRun) (n : Nat) :
    ShiftRun.apply runs n = n
      ∨ ∃ r ∈ runs, r.first ≤ n ∧ n ≤ r.last ∧ ShiftRun.apply runs n = (n + r.offset).toNat := by
  unfold ShiftRun.apply
  cases hfind : runs.find? (·.covers n) with
  | none => exact Or.inl rfl
  | some r =>
    have hcovers := List.find?_some hfind
    simp only [ShiftRun.covers, Bool.and_eq_true, decide_eq_true_eq] at hcovers
    exact Or.inr ⟨r, List.mem_of_find?_eq_some hfind, hcovers.1.1, hcovers.1.2, rfl⟩

/-- 区間の移る先が、`a` 以後の符号位置に収まること。 -/
def ShiftRun.Lands (r : ShiftRun) : Prop :=
  (97 : Int) ≤ r.first + r.offset
    ∧ (r.last + r.offset < 0xD800 ∨ 0xDFFF < r.first + r.offset ∧ r.last + r.offset < 0x110000)

instance (r : ShiftRun) : Decidable r.Lands := inferInstanceAs (Decidable (_ ∧ _))

theorem lands_of_mem_lowerRuns : ∀ r ∈ lowerRuns, r.Lands := by decide +kernel

/-- 小文字にした文字は、元の文字か、`İ` の写る先か、表の区間の移る先にある。 -/
theorem lowerChars_cases {c x : Char} (h : x ∈ lowerChars c) :
    x = c ∨ x = 'i' ∨ x = Char.ofNat 0x307
      ∨ ∃ r ∈ lowerRuns, (r.first : Int) + r.offset ≤ x.toNat ∧ (x.toNat : Int) ≤ r.last + r.offset := by
  unfold lowerChars at h
  split at h
  · simp only [List.mem_cons, List.not_mem_nil, or_false] at h
    exact Or.inr (h.imp_right Or.inl)
  · rw [List.mem_singleton] at h
    rcases ShiftRun.apply_cases lowerRuns c.toNat with hsame | ⟨r, hr, hfirst, hlast, hshift⟩
    · rw [hsame, Char.ofNat_toNat] at h
      exact Or.inl h
    · obtain ⟨hlow, hvalid⟩ := lands_of_mem_lowerRuns r hr
      rw [hshift] at h
      generalize hm : ((c.toNat : Int) + r.offset).toNat = m at h
      have hisValid : m.isValidChar := by
        unfold Nat.isValidChar
        omega
      refine Or.inr (Or.inr (Or.inr ⟨r, hr, ?_⟩))
      rw [h, toNat_ofNat hisValid]
      omega

/-- **小文字にした文字は、元の文字か `a` 以後の文字である。** -/
theorem mem_lowerChars {c x : Char} (h : x ∈ lowerChars c) : x = c ∨ 97 ≤ x.toNat := by
  rcases lowerChars_cases h with rfl | rfl | rfl | ⟨r, hr, hfirst, -⟩
  · exact Or.inl rfl
  · exact Or.inr (by decide)
  · exact Or.inr (by decide)
  · have hlow := (lands_of_mem_lowerRuns r hr).1
    omega

/-- 文字列を小文字にした文字は、語末の形を除けば、どれかの文字を小文字にしたものである。 -/
theorem lowerFrom_cases {x : Char} : ∀ {before cs : List Char}, x ∈ lowerFrom before cs →
    (∃ c ∈ cs, x ∈ lowerChars c) ∨ x = 'ς' ∨ x = 'σ'
  | before, c :: rest, h => by
    rcases List.mem_append.mp h with h | h
    · split at h
      · rw [List.mem_singleton] at h
        right
        rw [h]
        split
        · exact Or.inl rfl
        · exact Or.inr rfl
      · exact Or.inl ⟨c, List.mem_cons_self, h⟩
    · exact (lowerFrom_cases h).imp_left fun ⟨d, hd, hx⟩ => ⟨d, List.mem_cons_of_mem c hd, hx⟩

/-- **文字列を小文字にした文字は、元の文字か `a` 以後の文字である。** -/
theorem mem_lowerFrom {x : Char} {before cs : List Char} (h : x ∈ lowerFrom before cs) :
    x ∈ cs ∨ 97 ≤ x.toNat := by
  rcases lowerFrom_cases h with ⟨c, hc, hx⟩ | rfl | rfl
  · rcases mem_lowerChars hx with rfl | hlow
    · exact Or.inl hc
    · exact Or.inr hlow
  · exact Or.inr (by decide)
  · exact Or.inr (by decide)

theorem mem_lowercase {x : Char} {s : String} (h : x ∈ (lowercase s).toList) :
    x ∈ s.toList ∨ 97 ≤ x.toNat := by
  unfold lowercase at h
  rw [String.toList_ofList] at h
  exact mem_lowerFrom h

/-! ## ASCII の小文字と数字 -/

/-- ASCII の小文字か数字か。 -/
def isPlain (c : Char) : Bool := c.isLower || c.isDigit

theorem toNat_lt_of_le {c d : Char} (hd : d.toNat < 128) (h : c.val ≤ d.val) : c.toNat < 128 :=
  Nat.lt_of_le_of_lt (UInt32.le_iff_toNat_le.mp h) hd

theorem toNat_of_isLower {c : Char} (h : c.isLower = true) : c.toNat < 128 :=
  toNat_lt_of_le (d := 'z') (by decide) (of_decide_eq_true (Bool.and_eq_true_iff.mp h).2)

theorem toNat_of_isDigit {c : Char} (h : c.isDigit = true) : c.toNat < 128 :=
  toNat_lt_of_le (d := '9') (by decide) (of_decide_eq_true (Bool.and_eq_true_iff.mp h).2)

theorem toNat_of_isPlain {c : Char} (h : isPlain c = true) : c.toNat < 128 := by
  rcases Bool.or_eq_true_iff.mp h with h | h
  · exact toNat_of_isLower h
  · exact toNat_of_isDigit h

/-- ASCII の小文字について調べるにも、128 個を調べればよい。 -/
theorem forall_lower {P : Char → Prop}
    (h : ∀ n ∈ List.range 128, (Char.ofNat n).isLower = true → P (Char.ofNat n)) {c : Char}
    (hc : c.isLower = true) : P c :=
  forall_ascii (P := fun c => c.isLower = true → P c) h (toNat_of_isLower hc) hc

/-- ASCII の数字について調べるにも、128 個を調べればよい。 -/
theorem forall_digit {P : Char → Prop}
    (h : ∀ n ∈ List.range 128, (Char.ofNat n).isDigit = true → P (Char.ofNat n)) {c : Char}
    (hc : c.isDigit = true) : P c :=
  forall_ascii (P := fun c => c.isDigit = true → P c) h (toNat_of_isDigit hc) hc

/-- 両方について調べるにも、128 個を調べればよい。 -/
theorem forall_plain {P : Char → Prop}
    (h : ∀ n ∈ List.range 128, isPlain (Char.ofNat n) = true → P (Char.ofNat n)) {c : Char}
    (hc : isPlain c = true) : P c :=
  forall_ascii (P := fun c => isPlain c = true → P c) h (toNat_of_isPlain hc) hc

/-- ASCII の文字が小文字になる先は、表の初めの区間だけで決まる。 -/
theorem lowerChars_of_lt {c : Char} (hc : c.toNat < 128) : lowerChars c = [c.toLower] := by
  have hne : c ≠ 'İ' := by
    rintro rfl
    exact absurd hc (by decide)
  have hrest : ∀ r ∈ lowerRuns.tail, 128 ≤ r.first := by decide +kernel
  have hnone : lowerRuns.tail.find? (·.covers c.toNat) = none := by
    rw [List.find?_eq_none]
    intro r hr hcovers
    simp only [ShiftRun.covers, Bool.and_eq_true, decide_eq_true_eq] at hcovers
    have hfirst := hrest r hr
    omega
  have hruns : lowerRuns = [⟨0x41, 0x5A, 1, 32⟩] ++ lowerRuns.tail := rfl
  have happly : ShiftRun.apply lowerRuns c.toNat
      = ShiftRun.apply [⟨0x41, 0x5A, 1, 32⟩] c.toNat := by
    unfold ShiftRun.apply
    rw [hruns, List.find?_append, hnone, Option.or_none]
  have hall : ∀ n ∈ List.range 128,
      Char.ofNat (ShiftRun.apply [⟨0x41, 0x5A, 1, 32⟩] (Char.ofNat n).toNat)
        = (Char.ofNat n).toLower := by decide +kernel
  rw [lowerChars, if_neg hne, happly]
  exact congrArg (fun d => [d]) (forall_ascii (P := fun c =>
    Char.ofNat (ShiftRun.apply [⟨0x41, 0x5A, 1, 32⟩] c.toNat) = c.toLower) hall hc)

/-- ASCII の英数字は、小文字にすると ASCII の小文字か数字になる。 -/
theorem lowerChars_ascii {c : Char} (hc : c.toNat < 128) (h : isAlphanumeric c = true) :
    ∀ x ∈ lowerChars c, isPlain x = true := by
  have hall : ∀ n ∈ List.range 128, isAlphanumeric (Char.ofNat n) = true →
      isPlain (Char.ofNat n).toLower = true := by decide +kernel
  intro x hx
  rw [lowerChars_of_lt hc, List.mem_singleton] at hx
  rw [hx]
  exact forall_ascii (P := fun c => isAlphanumeric c = true → isPlain c.toLower = true) hall hc h

end CodeSearch.Text
