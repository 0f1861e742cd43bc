import CodeSearch.Proofs.Identifier

/-!
# 語に分けても何も失わない

区切りで切っても、大文字の前で切っても、溜めた文字は必ずどれかの語になる。だから、分けた語をつなぐと、
識別子の英数字を小文字にしたものに戻る（`flatten_partsFrom`、`flatten_wordsFrom`）。

区切りは、前後を別々に分けたのと同じにする（`split_append`）。ASCII の小文字と数字だけの語には、分ける
ところがない（`split_of_plain`）。だから、分けた語を区切りでつないで分け直しても、同じ語の列になる。

* `toList_join_split` — 分けた語をつなぐと、英数字を小文字にしたものになる
* `split_intercalate` — 区切りでつないだものは、一つずつ分けたものになる
* `split_of_plain` — ASCII の小文字と数字だけの語は、それ以上分かれない
* `split_lossless` — 以上をまとめたもの
-/

namespace CodeSearch.Identifier

open Text (lowerChars isAlphanumeric isPlain)

/-! ## 溜めた文字 -/

/-- **区切りで切った部分をつなぐと、英数字だけが残る。** -/
theorem flatten_partsFrom : ∀ current cs : List Char,
    (partsFrom current cs).flatten = current.reverse ++ cs.filter isAlphanumeric
  | current, [] => by simp [partsFrom]
  | current, c :: rest => by
    rw [partsFrom]
    by_cases hc : isAlphanumeric c = true
    · rw [if_pos hc, flatten_partsFrom (c :: current) rest, List.filter_cons_of_pos hc]
      simp
    · rw [if_neg hc, List.flatten_cons, flatten_partsFrom [] rest, List.filter_cons_of_neg hc]
      simp

/-- **部分を分けた語をつなぐと、文字をすべて小文字にしたものになる。** -/
theorem flatten_wordsFrom : ∀ (prev : Option Char) (current cs : List Char),
    (wordsFrom prev current cs).flatten = current.reverse ++ cs.flatMap lowerChars
  | prev, current, [] => by
    rw [wordsFrom]
    split
    · next h => simp [List.isEmpty_iff.mp h]
    · simp
  | prev, current, c :: rest => by
    rw [wordsFrom]
    split
    · rw [List.flatten_cons, flatten_wordsFrom (some c) _ rest]
      simp
    · rw [flatten_wordsFrom (some c) _ rest]
      simp

/-- **分けた語をつなぐと、識別子の英数字を小文字にしたものになる。** -/
theorem toList_join_split (identifier : String) :
    (String.join (split identifier)).toList
      = (identifier.toList.filter isAlphanumeric).flatMap lowerChars := by
  have hparts := flatten_partsFrom [] identifier.toList
  rw [List.reverse_nil, List.nil_append] at hparts
  rw [String.toList_join, split, List.flatMap_map, ← hparts]
  generalize partsFrom [] identifier.toList = parts
  induction parts with
  | nil => rfl
  | cons part parts ih =>
    have hwords : (wordsFrom none [] part).flatMap (fun w => (String.ofList w).toList)
        = part.flatMap lowerChars := by
      have h := flatten_wordsFrom none [] part
      rw [List.reverse_nil, List.nil_append, ← List.flatMap_id'] at h
      simpa using h
    rw [List.flatMap_cons, List.flatMap_append, ih, hwords, List.flatten_cons,
      List.flatMap_append]

/-! ## 区切り -/

theorem partsFrom_append {sep : Char} (hsep : isAlphanumeric sep = false) (rest : List Char) :
    ∀ current cs : List Char,
    partsFrom current (cs ++ sep :: rest) = partsFrom current cs ++ partsFrom [] rest
  | current, [] => by simp [partsFrom, hsep]
  | current, c :: cs => by
    rw [List.cons_append, partsFrom, partsFrom]
    split
    · exact partsFrom_append hsep rest (c :: current) cs
    · rw [partsFrom_append hsep rest [] cs, List.cons_append]

/-- **区切りの前後は、別々に分けたのと同じである。** -/
theorem split_append {sep : Char} (hsep : isAlphanumeric sep = false) (before after : String) :
    split (before ++ String.singleton sep ++ after) = split before ++ split after := by
  simp only [split, String.toList_append, String.toList_singleton, List.append_assoc,
    List.singleton_append, partsFrom_append hsep, List.flatMap_append, List.map_append]

/-- **区切りでつないだものは、一つずつ分けたものになる。** -/
theorem split_intercalate (sep : Char) (hsep : isAlphanumeric sep = false) :
    ∀ words : List String, split ((String.singleton sep).intercalate words) = words.flatMap split
  | [] => by
    rw [String.intercalate_nil]
    rfl
  | [word] => by
    rw [String.intercalate_singleton, List.flatMap_singleton]
  | word :: next :: words => by
    rw [String.intercalate_cons_cons, split_append hsep, split_intercalate sep hsep (next :: words)]
    rfl

/-- **一つずつが語に戻る書き方なら、区切りでつないだものは元の語の列に分かれる。** -/
theorem split_intercalate_map (sep : Char) (hsep : isAlphanumeric sep = false)
    {write : String → String} {words : List String}
    (h : ∀ word ∈ words, split (write word) = [word]) :
    split ((String.singleton sep).intercalate (words.map write)) = words := by
  rw [split_intercalate sep hsep]
  induction words with
  | nil => rfl
  | cons word words ih =>
    rw [List.map_cons, List.flatMap_cons, h word List.mem_cons_self,
      ih fun w hw => h w (List.mem_cons_of_mem word hw), List.singleton_append]

/-! ## 分かれない語 -/

/-- 英数字だけなら、一つの部分である。 -/
theorem partsFrom_of_alphanumeric : ∀ {current cs : List Char},
    (∀ c ∈ cs, isAlphanumeric c = true) → partsFrom current cs = [current.reverse ++ cs]
  | current, [], _ => by simp [partsFrom]
  | current, c :: cs, h => by
    rw [partsFrom, if_pos (h c List.mem_cons_self),
      partsFrom_of_alphanumeric fun x hx => h x (List.mem_cons_of_mem c hx)]
    simp

/-- 英数字だけの識別子は、大文字の前でだけ分かれる。 -/
theorem split_of_alphanumeric {identifier : String}
    (h : ∀ c ∈ identifier.toList, isAlphanumeric c = true) :
    split identifier = (wordsFrom none [] identifier.toList).map String.ofList := by
  rw [split, partsFrom_of_alphanumeric h]
  simp

/-- ASCII の小文字と数字は英数字で、大文字ではなく、小文字にしても変わらない。 -/
theorem plain_spec {c : Char} (h : isPlain c = true) :
    isAlphanumeric c = true ∧ Text.isUppercase c = false ∧ lowerChars c = [c] := by
  have hall : ∀ n ∈ List.range 128, isPlain (Char.ofNat n) = true →
      isAlphanumeric (Char.ofNat n) = true ∧ Text.isUppercase (Char.ofNat n) = false
        ∧ (Char.ofNat n).toLower = Char.ofNat n := by decide +kernel
  obtain ⟨halpha, hupper, hlower⟩ := Text.forall_plain (P := fun c =>
    isAlphanumeric c = true ∧ Text.isUppercase c = false ∧ c.toLower = c) hall h
  refine ⟨halpha, hupper, ?_⟩
  rw [Text.lowerChars_of_lt (Text.toNat_of_isPlain h), hlower]

theorem isAlphanumeric_of_plain {c : Char} (h : isPlain c = true) : isAlphanumeric c = true :=
  (plain_spec h).1

theorem isUppercase_of_plain {c : Char} (h : isPlain c = true) : Text.isUppercase c = false :=
  (plain_spec h).2.1

theorem lowerChars_of_plain {c : Char} (h : isPlain c = true) : lowerChars c = [c] :=
  (plain_spec h).2.2

/-- 大文字でなければ、その前では分けない。 -/
theorem wordsFrom_plain {c : Char} (hc : isPlain c = true) (prev : Option Char)
    (current rest : List Char) :
    wordsFrom prev current (c :: rest) = wordsFrom (some c) (c :: current) rest := by
  have hboundary : (prev.any fun p => isBoundary p c rest.head?) = false := by
    cases prev <;> simp [isBoundary, isUppercase_of_plain hc]
  rw [wordsFrom, hboundary, lowerChars_of_plain hc]
  rfl

/-- ASCII の小文字と数字が続く間は、語は切れない。 -/
theorem wordsFrom_append_plain {w : List Char} (hw : ∀ c ∈ w, isPlain c = true)
    (rest : List Char) : ∀ (prev : Option Char) (current : List Char),
    wordsFrom prev current (w ++ rest) = wordsFrom (w.getLast?.or prev) (w.reverse ++ current) rest := by
  induction w with
  | nil => exact fun _ _ => rfl
  | cons c w ih =>
    intro prev current
    rw [List.cons_append, wordsFrom_plain (hw c List.mem_cons_self),
      ih fun x hx => hw x (List.mem_cons_of_mem c hx)]
    congr 1
    · cases w <;> simp [List.getLast?_cons]
    · simp

/-- **ASCII の小文字と数字だけの語は、それ以上分かれない。** -/
theorem split_of_plain {word : String} (hne : word ≠ "")
    (h : ∀ c ∈ word.toList, isPlain c = true) : split word = [word] := by
  have hnil : word.toList ≠ [] := fun hnil => hne (String.toList_eq_nil_iff.mp hnil)
  have hwords := wordsFrom_append_plain h [] none []
  rw [List.append_nil, List.append_nil] at hwords
  rw [split_of_alphanumeric fun c hc => isAlphanumeric_of_plain (h c hc)]
  simp [hwords, wordsFrom, hnil]

/--
**語に分けても何も失わない。**

* 分けた語をつなぐと、識別子の英数字を順に小文字にしたものになり、どの語も空でない。
* ASCII の識別子なら、どの語もそれ以上は分かれず、下線でつないで分け直すと同じ語の列になる。
-/
theorem split_lossless (identifier : String) :
    String.join (split identifier)
      = String.ofList ((identifier.toList.filter isAlphanumeric).flatMap lowerChars)
    ∧ (∀ word ∈ split identifier, word ≠ "")
    ∧ ((∀ c ∈ identifier.toList, c.toNat < 128) →
      (∀ word ∈ split identifier, split word = [word])
        ∧ split ("_".intercalate (split identifier)) = split identifier) := by
  refine ⟨?_, fun word hw => (mem_split hw).1, fun hascii => ?_⟩
  · rw [← toList_join_split, String.ofList_toList]
  · have halone : ∀ word ∈ split identifier, split word = [word] := by
      intro word hw
      obtain ⟨hne, hplain⟩ := plain_of_ascii hascii hw
      exact split_of_plain hne hplain
    have hjoined : split ("_".intercalate ((split identifier).map id)) = split identifier :=
      split_intercalate_map '_' (by decide +kernel) halone
    rw [List.map_id] at hjoined
    exact ⟨halone, hjoined⟩

/-- 略語と数字のある識別子で、語はそれ以上分かれない。 -/
theorem split_lossless_acronym :
    (∀ c ∈ "toHTTP2_x".toList, c.toNat < 128)
    ∧ split "toHTTP2_x" = ["to", "http2", "x"]
    ∧ (∀ word ∈ split "toHTTP2_x", split word = [word])
    ∧ split ("_".intercalate (split "toHTTP2_x")) = split "toHTTP2_x" := by
  have hascii : ∀ c ∈ "toHTTP2_x".toList, c.toNat < 128 := by simp
  exact ⟨hascii, by decide +kernel, (split_lossless _).2.2 hascii⟩

end CodeSearch.Identifier
