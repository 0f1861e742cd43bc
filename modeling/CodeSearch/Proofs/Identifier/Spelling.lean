import CodeSearch.Proofs.Identifier.Lossless
import Mathlib.Data.List.Chain

/-!
# どの流儀で書いても、元の語に分かれる

語は、ASCII の小文字一つ以上に数字が続く、二文字以上のものである（`IsWord`）。区切りを使う流儀では、
区切りで切った一つずつが語になる。区切りのない流儀では、語の初めの大文字の前でだけ分かれることを、
語の並びの帰納で示す。

語を読み終えたときの直前の文字は、ふつうの語なら小文字か数字で、次の語の大文字の前で必ず分かれる。
すべて大文字の語なら大文字で、次の語の二文字めが小文字のときだけ分かれる（`Splits`）。

* `wordsFrom_capitals` — 大文字が続く間は、分かれない
* `wordsFrom_piece` — 一つの語を、初めの文字の後から読み終える
* `wordsFrom_pieces` — 語の並びを、初めの大文字の前でだけ分けて読む
* `split_spell` — どの流儀で書いても、元の語に分かれる
-/

namespace CodeSearch.Identifier

open Text (lowerChars isAlphanumeric isPlain)

/-! ## 語と書き方 -/

/-- ASCII の小文字一つ以上に数字が続く、二文字以上の語。 -/
structure IsWord (word : String) : Prop where
  shape : ∃ letters digits, word.toList = letters ++ digits ∧ letters ≠ []
    ∧ (∀ c ∈ letters, c.isLower = true) ∧ ∀ c ∈ digits, c.isDigit = true
  long : 2 ≤ word.length

/-- すべて大文字にする。 -/
def upper (word : String) : String := String.ofList (word.toList.map Char.toUpper)

/-- 初めの文字だけを大文字にする。 -/
def capital (word : String) : String := String.ofList (word.toList.modifyHead Char.toUpper)

/-- 並べて書く語。 -/
structure Piece where
  word : String
  /-- すべて大文字で書くか。 -/
  capitals : Bool := false

/-- 初めを大文字にして書く。 -/
def Piece.spell (p : Piece) : String := if p.capitals then upper p.word else capital p.word

/-- どの語も初めを大文字にして並べる。 -/
def pascal (pieces : List Piece) : String := String.join (pieces.map Piece.spell)

/-- 二つめからの語の初めを大文字にして並べる。 -/
def camel : List Piece → String
  | [] => ""
  | p :: ps => (if p.capitals then upper p.word else p.word) ++ pascal ps

/-- 識別子の書き方の流儀。 -/
inductive Convention where
  | snake | screamingSnake | kebab | pascal | camel

/-- 流儀に従って書く。 -/
def Convention.spell (words : List String) : Convention → String
  | .snake => "_".intercalate words
  | .screamingSnake => "_".intercalate (words.map upper)
  | .kebab => "-".intercalate words
  | .pascal => Identifier.pascal (words.map fun w => { word := w })
  | .camel => Identifier.camel (words.map fun w => { word := w })

/-- 次の語が、すべて大文字の語の後でも見分けられること。初めだけが大文字で、二文字めが小文字である。 -/
def Piece.Follows (p : Piece) : Prop :=
  p.capitals = false ∧ ∃ first second rest, p.word.toList = first :: second :: rest
    ∧ second.isLower = true

/-- すべて大文字で書く語が、見分けられること。小文字だけからなり、次の語が見分けられる。 -/
structure Acronyms (pieces : List Piece) : Prop where
  letters : ∀ p ∈ pieces, p.capitals = true → ∀ c ∈ p.word.toList, c.isLower = true
  follows : pieces.IsChain fun p q => p.capitals = true → q.Follows

/-! ## 大文字 -/

/-- 小文字でも数字でもない大文字。 -/
structure IsCapital (c : Char) : Prop where
  upper : Text.isUppercase c = true
  not_lower : Text.isLowercase c = false
  not_digit : c.isDigit = false

theorem isPlain_of_isLower {c : Char} (h : c.isLower = true) : isPlain c = true := by
  simp [isPlain, h]

theorem isPlain_of_isDigit {c : Char} (h : c.isDigit = true) : isPlain c = true := by
  simp [isPlain, h]

/-- ASCII の小文字は、大文字にすると語の先頭に立つ文字になり、小文字にすれば元に戻る。 -/
theorem lower_spec {c : Char} (h : c.isLower = true) : Text.isLowercase c = true
    ∧ IsCapital c.toUpper ∧ isAlphanumeric c.toUpper = true ∧ lowerChars c.toUpper = [c] := by
  have hall : ∀ n ∈ List.range 128, (Char.ofNat n).isLower = true →
      Text.isLowercase (Char.ofNat n) = true
        ∧ (Text.isUppercase (Char.ofNat n).toUpper = true
          ∧ Text.isLowercase (Char.ofNat n).toUpper = false
          ∧ (Char.ofNat n).toUpper.isDigit = false)
        ∧ isAlphanumeric (Char.ofNat n).toUpper = true
        ∧ lowerChars (Char.ofNat n).toUpper = [Char.ofNat n] := by decide +kernel
  obtain ⟨hlower, ⟨hupper, hsmall, hdigit⟩, hrest⟩ := Text.forall_lower (P := fun c =>
    Text.isLowercase c = true
      ∧ (Text.isUppercase c.toUpper = true ∧ Text.isLowercase c.toUpper = false
        ∧ c.toUpper.isDigit = false)
      ∧ isAlphanumeric c.toUpper = true ∧ lowerChars c.toUpper = [c]) hall h
  exact ⟨hlower, ⟨hupper, hsmall, hdigit⟩, hrest⟩

theorem isLowercase_of_isLower {c : Char} (h : c.isLower = true) : Text.isLowercase c = true :=
  (lower_spec h).1

theorem isCapital_toUpper {c : Char} (h : c.isLower = true) : IsCapital c.toUpper :=
  (lower_spec h).2.1

/-- 大文字にしても英数字で、小文字にすれば元の文字に戻る。 -/
theorem toUpper_of_isLower {c : Char} (h : c.isLower = true) :
    isAlphanumeric c.toUpper = true ∧ lowerChars c.toUpper = [c] :=
  (lower_spec h).2.2

/-- ASCII の数字には、大小がない。 -/
theorem digit_spec {c : Char} (h : c.isDigit = true) :
    Text.isLowercase c = false ∧ c.toUpper = c := by
  have hall : ∀ n ∈ List.range 128, (Char.ofNat n).isDigit = true →
      Text.isLowercase (Char.ofNat n) = false ∧ (Char.ofNat n).toUpper = Char.ofNat n := by
    decide +kernel
  exact Text.forall_digit (P := fun c => Text.isLowercase c = false ∧ c.toUpper = c) hall h

theorem isLowercase_of_isDigit {c : Char} (h : c.isDigit = true) : Text.isLowercase c = false :=
  (digit_spec h).1

theorem toUpper_of_isDigit {c : Char} (h : c.isDigit = true) : c.toUpper = c :=
  (digit_spec h).2

theorem isAlphanumeric_toUpper {c : Char} (h : isPlain c = true) :
    isAlphanumeric c.toUpper = true := by
  rcases Bool.or_eq_true_iff.mp h with hlower | hdigit
  · exact (toUpper_of_isLower hlower).1
  · rw [toUpper_of_isDigit hdigit]
    exact isAlphanumeric_of_plain h

/-- 小文字か数字の後の大文字の前では、必ず分ける。 -/
theorem isBoundary_plain {prev c : Char} (hprev : isPlain prev = true) (hc : IsCapital c)
    (next : Option Char) : isBoundary prev c next = true := by
  rcases Bool.or_eq_true_iff.mp hprev with h | h
  · simp [isBoundary, hc.upper, isLowercase_of_isLower h]
  · simp [isBoundary, hc.upper, h]

/-- 大文字の後の大文字の前では、次が小文字のときだけ分ける。 -/
theorem isBoundary_capital {prev c : Char} (hprev : IsCapital prev) (hc : IsCapital c)
    (next : Option Char) : isBoundary prev c next = next.any Text.isLowercase := by
  simp [isBoundary, hc.upper, hprev.upper, hprev.not_lower, hprev.not_digit]

/-! ## 語の文字 -/

/-- 語は、小文字に、一つ以上の小文字か数字が続く。 -/
theorem IsWord.toList_eq {word : String} (h : IsWord word) :
    ∃ c cs, word.toList = c :: cs ∧ c.isLower = true ∧ cs ≠ [] ∧ ∀ x ∈ cs, isPlain x = true := by
  obtain ⟨letters, digits, heq, hne, hletters, hdigits⟩ := h.shape
  cases letters with
  | nil => exact absurd rfl hne
  | cons c letters =>
    refine ⟨c, letters ++ digits, heq, hletters c List.mem_cons_self, ?_, ?_⟩
    · intro hnil
      have hlong := h.long
      rw [← String.length_toList, heq, List.cons_append, hnil] at hlong
      simp at hlong
    · intro x hx
      rcases List.mem_append.mp hx with hx | hx
      · exact isPlain_of_isLower (hletters x (List.mem_cons_of_mem c hx))
      · exact isPlain_of_isDigit (hdigits x hx)

theorem IsWord.plain {word : String} (h : IsWord word) : ∀ x ∈ word.toList, isPlain x = true := by
  obtain ⟨c, cs, heq, hc, -, hcs⟩ := h.toList_eq
  intro x hx
  rw [heq] at hx
  rcases List.mem_cons.mp hx with rfl | hx
  · exact isPlain_of_isLower hc
  · exact hcs x hx

theorem IsWord.ne_empty {word : String} (h : IsWord word) : word ≠ "" := by
  rintro rfl
  exact absurd h.long (by decide)

theorem IsWord.split_eq {word : String} (h : IsWord word) : split word = [word] :=
  split_of_plain h.ne_empty h.plain

/-! ## 大文字の続き -/

/-- 小文字か数字が続いた後は、直前の文字も小文字か数字である。 -/
theorem wordsFrom_plains {cs : List Char} (hne : cs ≠ []) (h : ∀ x ∈ cs, isPlain x = true)
    (prev : Option Char) (current rest : List Char) :
    ∃ p, isPlain p = true
      ∧ wordsFrom prev current (cs ++ rest) = wordsFrom (some p) (cs.reverse ++ current) rest := by
  refine ⟨cs.getLast hne, h _ (List.getLast_mem hne), ?_⟩
  rw [wordsFrom_append_plain h, List.getLast?_eq_some_getLast hne]
  rfl

/-- **大文字が続く間は、その後に小文字が来なければ分かれない。** -/
theorem wordsFrom_capitals {rest : List Char} (hrest : rest.head?.any Text.isLowercase = false) :
    ∀ {letters : List Char} {prev : Char} (current : List Char),
    (∀ c ∈ letters, c.isLower = true) → IsCapital prev →
    ∃ p, IsCapital p ∧ wordsFrom (some prev) current (letters.map Char.toUpper ++ rest)
      = wordsFrom (some p) (letters.reverse ++ current) rest
  | [], prev, current, _, hprev => ⟨prev, hprev, rfl⟩
  | c :: letters, prev, current, h, hprev => by
    have hc := isCapital_toUpper (h c List.mem_cons_self)
    have hnext : (letters.map Char.toUpper ++ rest).head?.any Text.isLowercase = false := by
      cases letters with
      | nil => exact hrest
      | cons d letters =>
        have hd := h d (List.mem_cons_of_mem c List.mem_cons_self)
        simpa using (isCapital_toUpper hd).not_lower
    obtain ⟨p, hp, heq⟩ := wordsFrom_capitals hrest (c :: current)
      (fun x hx => h x (List.mem_cons_of_mem c hx)) hc
    refine ⟨p, hp, ?_⟩
    rw [List.map_cons, List.cons_append, wordsFrom, Option.any_some,
      isBoundary_capital hprev hc, hnext, (toUpper_of_isLower (h c List.mem_cons_self)).2]
    simpa using heq

/-- すべて大文字にした語も、一つの語である。 -/
theorem IsWord.split_upper {word : String} (h : IsWord word) : split (upper word) = [word] := by
  have halpha : ∀ c ∈ (upper word).toList, isAlphanumeric c = true := by
    intro c hc
    rw [upper, String.toList_ofList] at hc
    obtain ⟨x, hx, rfl⟩ := List.mem_map.mp hc
    exact isAlphanumeric_toUpper (h.plain x hx)
  obtain ⟨letters, digits, heq, hne, hletters, hdigits⟩ := h.shape
  cases letters with
  | nil => exact absurd rfl hne
  | cons c letters =>
    have hc := hletters c List.mem_cons_self
    have hkept : digits.map Char.toUpper = digits :=
      (List.map_congr_left fun d hd => toUpper_of_isDigit (hdigits d hd)).trans (List.map_id digits)
    have hnext : digits.head?.any Text.isLowercase = false := by
      cases digits with
      | nil => rfl
      | cons d digits => simpa using isLowercase_of_isDigit (hdigits d List.mem_cons_self)
    obtain ⟨p, -, hcapitals⟩ := wordsFrom_capitals hnext [c]
      (fun x hx => hletters x (List.mem_cons_of_mem c hx)) (isCapital_toUpper hc)
    have hplain := wordsFrom_append_plain (fun x hx => isPlain_of_isDigit (hdigits x hx)) []
      (some p) (letters.reverse ++ [c])
    rw [List.append_nil] at hplain
    rw [split_of_alphanumeric halpha, upper, String.toList_ofList, heq, List.map_append, hkept,
      List.map_cons, List.cons_append, wordsFrom, (toUpper_of_isLower hc).2]
    simp only [Option.any_none, Bool.false_and, Bool.false_eq_true, if_false, List.reverse_singleton,
      List.append_nil]
    rw [hcapitals, hplain, wordsFrom]
    simp [← heq]

/-! ## 並べて書いた語 -/

/-- 直前の文字が `prev` のとき、次の語の前で必ず分かれること。 -/
def Splits (prev : Char) (pieces : List Piece) : Prop :=
  isPlain prev = true ∨ IsCapital prev ∧ ∀ p, pieces.head? = some p → p.Follows

/-- 書いた語の、初めの文字より後ろ。 -/
def Piece.tail (p : Piece) (cs : List Char) : List Char :=
  if p.capitals then cs.map Char.toUpper else cs

theorem Piece.toList_spell {p : Piece} {c : Char} {cs : List Char} (h : p.word.toList = c :: cs) :
    p.spell.toList = c.toUpper :: p.tail cs := by
  unfold Piece.spell Piece.tail
  split <;> simp [upper, capital, h]

theorem toList_pascal_cons (p : Piece) (ps : List Piece) :
    (pascal (p :: ps)).toList = p.spell.toList ++ (pascal ps).toList := by
  simp [pascal, String.toList_join]

theorem Acronyms.tail {p : Piece} {ps : List Piece} (h : Acronyms (p :: ps)) : Acronyms ps where
  letters := fun q hq => h.letters q (List.mem_cons_of_mem p hq)
  follows := h.follows.tail

/-- すべて大文字の語の次の語は、見分けられる。 -/
theorem Acronyms.head {p : Piece} {ps : List Piece} (h : Acronyms (p :: ps))
    (hp : p.capitals = true) : ∀ q, ps.head? = some q → q.Follows := by
  intro q hq
  cases ps with
  | nil => simp at hq
  | cons q' ps =>
    obtain rfl := Option.some.inj hq
    exact (List.isChain_cons_cons.mp h.follows).1 hp

/-- 並べて書いた語は、小文字では始まらない。 -/
theorem head?_pascal : ∀ {ps : List Piece}, (∀ p ∈ ps, IsWord p.word) →
    (pascal ps).toList.head?.any Text.isLowercase = false
  | [], _ => rfl
  | p :: ps, h => by
    obtain ⟨c, cs, heq, hc, -⟩ := (h p List.mem_cons_self).toList_eq
    rw [toList_pascal_cons, Piece.toList_spell heq]
    simpa using (isCapital_toUpper hc).not_lower

/-- **一つの語を、初めの文字の後から読み終えると、次の語の前で必ず分かれる。** -/
theorem wordsFrom_piece {p : Piece} {ps : List Piece} (hwords : ∀ q ∈ p :: ps, IsWord q.word)
    (h : Acronyms (p :: ps)) {c : Char} {cs : List Char} (heq : p.word.toList = c :: cs) :
    ∃ q, Splits q ps ∧ wordsFrom (some c.toUpper) [c] (p.tail cs ++ (pascal ps).toList)
      = wordsFrom (some q) p.word.toList.reverse (pascal ps).toList := by
  obtain ⟨c', cs', heq', hc, hne, hplain⟩ := (hwords p List.mem_cons_self).toList_eq
  obtain ⟨rfl, rfl⟩ := List.cons.inj (heq.symm.trans heq')
  rw [heq, List.reverse_cons]
  unfold Piece.tail
  split
  · next hcapitals =>
    have hletters : ∀ x ∈ cs, x.isLower = true := fun x hx =>
      h.letters p List.mem_cons_self hcapitals x (heq ▸ List.mem_cons_of_mem c hx)
    have hnext := head?_pascal fun q hq => hwords q (List.mem_cons_of_mem p hq)
    obtain ⟨q, hq, hread⟩ := wordsFrom_capitals hnext [c] hletters (isCapital_toUpper hc)
    exact ⟨q, Or.inr ⟨hq, h.head hcapitals⟩, hread⟩
  · obtain ⟨q, hq, hread⟩ := wordsFrom_plains hne hplain (some c.toUpper) [c] (pascal ps).toList
    exact ⟨q, Or.inl hq, hread⟩

/-- **並べて書いた語は、初めの大文字の前でだけ分かれる。** -/
theorem wordsFrom_pieces : ∀ {ps : List Piece} {prev : Char} {current : List Char},
    (∀ p ∈ ps, IsWord p.word) → Acronyms ps → Splits prev ps → current ≠ [] →
    wordsFrom (some prev) current (pascal ps).toList
      = current.reverse :: ps.map fun p => p.word.toList
  | [], prev, current, _, _, _, hne => by
    simp [pascal, wordsFrom, hne]
  | p :: ps, prev, current, hwords, h, hprev, hne => by
    obtain ⟨c, cs, heq, hc, -⟩ := (hwords p List.mem_cons_self).toList_eq
    obtain ⟨q, hq, hread⟩ := wordsFrom_piece hwords h heq
    have hcut : isBoundary prev c.toUpper (p.tail cs ++ (pascal ps).toList).head? = true := by
      rcases hprev with hplain | ⟨hcapital, hfollows⟩
      · exact isBoundary_plain hplain (isCapital_toUpper hc) _
      · obtain ⟨hsmall, first, second, rest, hfirst, hsecond⟩ := hfollows p rfl
        obtain ⟨rfl, rfl⟩ := List.cons.inj (heq.symm.trans hfirst)
        rw [isBoundary_capital hcapital (isCapital_toUpper hc)]
        simpa [Piece.tail, hsmall] using isLowercase_of_isLower hsecond
    have hcurrent : current.isEmpty = false := by simpa using hne
    rw [toList_pascal_cons, Piece.toList_spell heq, List.cons_append, wordsFrom, Option.any_some,
      hcut, hcurrent, (toUpper_of_isLower hc).2]
    simp only [Bool.not_false, Bool.and_self, if_true, List.reverse_singleton]
    rw [hread, wordsFrom_pieces (fun r hr => hwords r (List.mem_cons_of_mem p hr)) h.tail hq
      (by simp [heq]), List.reverse_reverse, List.map_cons]

/-- 並べて書いた語の文字は、どれも英数字である。 -/
theorem alphanumeric_pascal {ps : List Piece} (hwords : ∀ p ∈ ps, IsWord p.word) :
    ∀ c ∈ (pascal ps).toList, isAlphanumeric c = true := by
  intro c hc
  rw [pascal, String.toList_join, List.flatMap_map] at hc
  obtain ⟨p, hp, hc⟩ := List.mem_flatMap.mp hc
  obtain ⟨d, ds, heq, hd, -, hds⟩ := (hwords p hp).toList_eq
  rw [Piece.toList_spell heq] at hc
  rcases List.mem_cons.mp hc with rfl | hc
  · exact (toUpper_of_isLower hd).1
  · unfold Piece.tail at hc
    split at hc
    · obtain ⟨x, hx, rfl⟩ := List.mem_map.mp hc
      exact isAlphanumeric_toUpper (hds x hx)
    · exact isAlphanumeric_of_plain (hds c hc)

/-- **どの語も初めを大文字にして並べると、元の語に分かれる。** -/
theorem split_pascal {ps : List Piece} (hwords : ∀ p ∈ ps, IsWord p.word) (h : Acronyms ps) :
    split (pascal ps) = ps.map Piece.word := by
  rw [split_of_alphanumeric (alphanumeric_pascal hwords)]
  cases ps with
  | nil => rfl
  | cons p ps =>
    obtain ⟨c, cs, heq, hc, -⟩ := (hwords p List.mem_cons_self).toList_eq
    obtain ⟨q, hq, hread⟩ := wordsFrom_piece hwords h heq
    rw [toList_pascal_cons, Piece.toList_spell heq, List.cons_append, wordsFrom,
      (toUpper_of_isLower hc).2]
    simp only [Option.any_none, Bool.false_and, Bool.false_eq_true, if_false,
      List.reverse_singleton, List.append_nil]
    rw [hread, wordsFrom_pieces (fun r hr => hwords r (List.mem_cons_of_mem p hr)) h.tail hq
      (by simp [heq])]
    simp

/-- **二つめからの語の初めを大文字にして並べても、元の語に分かれる。** -/
theorem split_camel {ps : List Piece} (hwords : ∀ p ∈ ps, IsWord p.word) (h : Acronyms ps) :
    split (camel ps) = ps.map Piece.word := by
  cases ps with
  | nil => rfl
  | cons p ps =>
    rw [camel]
    split
    · next hcapitals =>
      -- 初めの語がすべて大文字なら、どの語も初めを大文字にして並べたものと同じである
      rw [← split_pascal hwords h]
      congr 1
      simp [pascal, Piece.spell, hcapitals]
    · have hword := hwords p List.mem_cons_self
      have htail := fun q hq => hwords q (List.mem_cons_of_mem p hq)
      have halpha : ∀ c ∈ (p.word ++ pascal ps).toList, isAlphanumeric c = true := by
        intro c hc
        rw [String.toList_append] at hc
        rcases List.mem_append.mp hc with hc | hc
        · exact isAlphanumeric_of_plain (hword.plain c hc)
        · exact alphanumeric_pascal htail c hc
      have hne : p.word.toList ≠ [] := fun hnil =>
        hword.ne_empty (String.toList_eq_nil_iff.mp hnil)
      obtain ⟨q, hq, hread⟩ := wordsFrom_plains hne hword.plain none [] (pascal ps).toList
      rw [split_of_alphanumeric halpha, String.toList_append, hread,
        wordsFrom_pieces htail h.tail (Or.inl hq) (by simpa using hne)]
      simp

/-! ## どの流儀でも -/

/-- すべて大文字で書く語がなければ、見分けることは何もない。 -/
theorem acronyms_map (words : List String) : Acronyms (words.map fun w => { word := w }) where
  letters := by
    intro p hp hcapitals
    obtain ⟨w, -, rfl⟩ := List.mem_map.mp hp
    exact absurd hcapitals (by simp)
  follows := by
    rw [List.isChain_map]
    exact (List.pairwise_of_forall fun _ _ hcapitals => absurd hcapitals (by simp)).isChain

/--
**どの流儀で書いても、元の語に分かれる。**

* 下線かハイフンでつないでも、下線でつないですべて大文字にしても、初めだけを大文字にして並べても、
  元の語の列に分かれる。
* 並べて書くとき、隣り合わない、小文字だけからなる語をすべて大文字で書いても、その次の語の二文字めが
  小文字なら、やはり元の語の列に分かれる。
-/
theorem split_spell {words : List String} (hwords : ∀ w ∈ words, IsWord w) :
    (∀ convention : Convention, split (convention.spell words) = words)
    ∧ ∀ pieces : List Piece, pieces.map Piece.word = words → Acronyms pieces →
      split (pascal pieces) = words ∧ split (camel pieces) = words := by
  have hpieces : ∀ pieces : List Piece, pieces.map Piece.word = words → Acronyms pieces →
      split (pascal pieces) = words ∧ split (camel pieces) = words := by
    rintro pieces rfl hacronyms
    have hall : ∀ p ∈ pieces, IsWord p.word := fun p hp => hwords _ (List.mem_map_of_mem hp)
    exact ⟨split_pascal hall hacronyms, split_camel hall hacronyms⟩
  have hplain : (words.map fun w => ({ word := w } : Piece)).map Piece.word = words := by
    simp [Function.comp_def]
  have halone : ∀ w ∈ words, split (id w) = [w] := fun w hw => (hwords w hw).split_eq
  refine ⟨fun convention => ?_, hpieces⟩
  cases convention with
  | snake =>
    have h := split_intercalate_map '_' (by decide +kernel) halone
    rwa [List.map_id] at h
  | screamingSnake =>
    exact split_intercalate_map '_' (by decide +kernel) fun w hw => (hwords w hw).split_upper
  | kebab =>
    have h := split_intercalate_map '-' (by decide +kernel) halone
    rwa [List.map_id] at h
  | pascal => exact (hpieces _ hplain (acronyms_map words)).1
  | camel => exact (hpieces _ hplain (acronyms_map words)).2

/-! ### 略語のある識別子 -/

/-- 略語をすべて大文字で書く、三語の識別子。 -/
def idReader : List Piece :=
  [{ word := "get" }, { word := "id", capitals := true }, { word := "of2" }]

/-- 略語が続かず、次の語の二文字めが小文字なので、どの書き方でも三語に分かれる。 -/
theorem split_spell_acronym :
    (∀ w ∈ ["get", "id", "of2"], IsWord w) ∧ Acronyms idReader ∧ camel idReader = "getIDOf2"
    ∧ split (camel idReader) = ["get", "id", "of2"]
    ∧ split (pascal idReader) = ["get", "id", "of2"]
    ∧ split (Convention.screamingSnake.spell ["get", "id", "of2"]) = ["get", "id", "of2"] := by
  have hwords : ∀ w ∈ ["get", "id", "of2"], IsWord w := by
    simp only [List.mem_cons, List.not_mem_nil, or_false]
    rintro w (rfl | rfl | rfl)
    · exact ⟨⟨['g', 'e', 't'], [], by decide +kernel, by simp, by simp, by simp⟩, by decide +kernel⟩
    · exact ⟨⟨['i', 'd'], [], by decide +kernel, by simp, by simp, by simp⟩, by decide +kernel⟩
    · exact ⟨⟨['o', 'f'], ['2'], by decide +kernel, by simp, by simp, by simp⟩, by decide +kernel⟩
  have hacronyms : Acronyms idReader := by
    constructor
    · simp only [idReader, List.mem_cons, List.not_mem_nil, or_false]
      rintro p (rfl | rfl | rfl) hcapitals
      · exact absurd hcapitals (by simp)
      · simp
      · exact absurd hcapitals (by simp)
    · simp only [idReader, List.isChain_cons_cons, List.isChain_singleton]
      exact ⟨by simp, fun _ => ⟨rfl, 'o', 'f', ['2'], by decide +kernel, by decide +kernel⟩,
        trivial⟩
  obtain ⟨hconventions, hpieces⟩ := split_spell hwords
  obtain ⟨hpascal, hcamel⟩ := hpieces idReader rfl hacronyms
  exact ⟨hwords, hacronyms, by decide +kernel, hcamel, hpascal, hconventions .screamingSnake⟩

end CodeSearch.Identifier
