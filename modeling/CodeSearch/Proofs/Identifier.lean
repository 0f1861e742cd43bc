import CodeSearch.Identifier
import CodeSearch.Proofs.Text.LetterCase

/-!
# 識別子を分けた語の文字

分けた語は空でなく、識別子の英数字を小文字にした文字からなる。本文から拾った識別子は ASCII だけなので、
それを分けた語は ASCII の小文字と数字だけからなる（`plain_of_scan`）。

* `mem_split` — 分けた語は空でなく、どの文字も識別子の英数字を小文字にしたものである
* `mem_scan` — 拾った識別子の文字は、識別子に続く文字である
* `mem_of_mem_scan` — 拾った識別子の文字は、本文の文字である
* `mem_allTerms` — 二語以上に分かれる識別子の、二文字以上の語は、すべて集まる
* `eraseDups_perm` — 語の集まりが同じなら、重複を除いた語は並べ替えになる
-/

namespace CodeSearch.Identifier

open Text (lowerChars isAlphanumeric isPlain)

/-! ## 分けた語 -/

/-- 部分の文字は、溜めた文字か、英数字である残りの文字である。 -/
theorem mem_partsFrom {x : Char} {part : List Char} (hx : x ∈ part) :
    ∀ {current cs : List Char}, part ∈ partsFrom current cs →
    x ∈ current ∨ x ∈ cs ∧ isAlphanumeric x = true
  | current, [], h => by
    unfold partsFrom at h
    rw [List.mem_singleton.mp h] at hx
    exact Or.inl (List.mem_reverse.mp hx)
  | current, c :: rest, h => by
    unfold partsFrom at h
    split at h
    · next hc =>
      rcases mem_partsFrom hx h with hcur | ⟨hrest, ha⟩
      · rcases List.mem_cons.mp hcur with rfl | hcur
        · exact Or.inr ⟨List.mem_cons_self, hc⟩
        · exact Or.inl hcur
      · exact Or.inr ⟨List.mem_cons_of_mem c hrest, ha⟩
    · rcases List.mem_cons.mp h with rfl | h
      · exact Or.inl (List.mem_reverse.mp hx)
      · rcases mem_partsFrom hx h with hnil | ⟨hrest, ha⟩
        · simp at hnil
        · exact Or.inr ⟨List.mem_cons_of_mem c hrest, ha⟩

/-- 語の文字は、溜めた文字か、残りの文字を小文字にしたものである。 -/
theorem mem_wordsFrom {x : Char} {word : List Char} (hx : x ∈ word) :
    ∀ {prev : Option Char} {current cs : List Char}, word ∈ wordsFrom prev current cs →
    x ∈ current ∨ ∃ c ∈ cs, x ∈ lowerChars c
  | _, current, [], h => by
    unfold wordsFrom at h
    split at h
    · simp at h
    · rw [List.mem_singleton.mp h] at hx
      exact Or.inl (List.mem_reverse.mp hx)
  | _, current, c :: rest, h => by
    unfold wordsFrom at h
    split at h
    · rcases List.mem_cons.mp h with rfl | h
      · exact Or.inl (List.mem_reverse.mp hx)
      · right
        rcases mem_wordsFrom hx h with hcur | ⟨d, hd, hxd⟩
        · exact ⟨c, List.mem_cons_self, List.mem_reverse.mp hcur⟩
        · exact ⟨d, List.mem_cons_of_mem c hd, hxd⟩
    · rcases mem_wordsFrom hx h with hcur | ⟨d, hd, hxd⟩
      · rcases List.mem_append.mp hcur with hcur | hcur
        · exact Or.inr ⟨c, List.mem_cons_self, List.mem_reverse.mp hcur⟩
        · exact Or.inl hcur
      · exact Or.inr ⟨d, List.mem_cons_of_mem c hd, hxd⟩

theorem ne_nil_of_mem_wordsFrom {word : List Char} : ∀ {prev : Option Char}
    {current cs : List Char}, word ∈ wordsFrom prev current cs → word ≠ []
  | _, current, [], h => by
    unfold wordsFrom at h
    split at h
    · simp at h
    · next hcur =>
      rw [List.mem_singleton.mp h]
      simpa using hcur
  | _, current, c :: rest, h => by
    unfold wordsFrom at h
    split at h
    · next hcut =>
      rcases List.mem_cons.mp h with rfl | h
      · simp only [Bool.and_eq_true, Bool.not_eq_true'] at hcut
        simpa using hcut.2
      · exact ne_nil_of_mem_wordsFrom h
    · exact ne_nil_of_mem_wordsFrom h

/-- **分けた語は空でなく、どの文字も識別子の英数字を小文字にしたものである。** -/
theorem mem_split {identifier word : String} (h : word ∈ split identifier) :
    word ≠ "" ∧ ∀ x ∈ word.toList, ∃ c ∈ identifier.toList,
      isAlphanumeric c = true ∧ x ∈ lowerChars c := by
  unfold split at h
  obtain ⟨w, hw, rfl⟩ := List.mem_map.mp h
  obtain ⟨part, hpart, hw⟩ := List.mem_flatMap.mp hw
  refine ⟨?_, fun x hx => ?_⟩
  · intro hempty
    have hnil := congrArg String.toList hempty
    rw [String.toList_ofList] at hnil
    exact ne_nil_of_mem_wordsFrom hw hnil
  · rw [String.toList_ofList] at hx
    rcases mem_wordsFrom hx hw with hnil | ⟨c, hc, hxc⟩
    · simp at hnil
    · rcases mem_partsFrom hc hpart with hnil | ⟨hin, ha⟩
      · simp at hnil
      · exact ⟨c, hin, ha, hxc⟩

/-- ASCII の識別子を分けた語は、空でなく、ASCII の小文字と数字だけからなる。 -/
theorem plain_of_ascii {identifier word : String} (h : ∀ c ∈ identifier.toList, c.toNat < 128)
    (hw : word ∈ split identifier) : word ≠ "" ∧ ∀ c ∈ word.toList, isPlain c = true := by
  obtain ⟨hne, hchars⟩ := mem_split hw
  refine ⟨hne, fun x hx => ?_⟩
  obtain ⟨c, hc, halpha, hxc⟩ := hchars x hx
  exact Text.lowerChars_ascii (h c hc) halpha x hxc

/-! ## 拾った識別子 -/

theorem mem_scanFrom {x : Char} {identifier : List Char} (hx : x ∈ identifier) :
    ∀ {current cs : List Char}, (∀ c ∈ current, isRest c = true) →
    identifier ∈ scanFrom current cs → isRest x = true
  | current, [], hcur, h => by
    unfold scanFrom at h
    split at h
    · simp at h
    · rw [List.mem_singleton.mp h] at hx
      exact hcur x (List.mem_reverse.mp hx)
  | current, c :: rest, hcur, h => by
    unfold scanFrom at h
    split at h
    · split at h
      · next hstart =>
        refine mem_scanFrom hx ?_ h
        intro d hd
        rw [List.mem_singleton.mp hd]
        unfold isRest
        rw [hstart, Bool.true_or]
      · exact mem_scanFrom hx (by simp) h
    · split at h
      · next hrest =>
        refine mem_scanFrom hx ?_ h
        intro d hd
        rcases List.mem_cons.mp hd with rfl | hd
        · exact hrest
        · exact hcur d hd
      · rcases List.mem_cons.mp h with rfl | h
        · exact hcur x (List.mem_reverse.mp hx)
        · exact mem_scanFrom hx (by simp) h

/-- 識別子を拾うのは、本文の文字を飛ばしながら残すことである。 -/
theorem scanFrom_sublist : ∀ current cs : List Char,
    (scanFrom current cs).flatten.Sublist (current.reverse ++ cs)
  | current, [] => by
    rw [scanFrom, List.append_nil]
    split
    · exact List.nil_sublist _
    · simp
  | current, c :: rest => by
    rw [scanFrom]
    split
    · next hempty =>
      rw [List.isEmpty_iff.mp hempty, List.reverse_nil, List.nil_append]
      split
      · exact scanFrom_sublist [c] rest
      · exact (scanFrom_sublist [] rest).cons c
    · split
      · have h := scanFrom_sublist (c :: current) rest
        rwa [List.reverse_cons, List.append_assoc] at h
      · rw [List.flatten_cons]
        exact ((scanFrom_sublist [] rest).cons c).append_left current.reverse

/-- 拾った識別子の文字は、識別子に続く文字である。 -/
theorem mem_scan {text identifier : String} (h : identifier ∈ scan text) :
    ∀ x ∈ identifier.toList, isRest x = true := by
  obtain ⟨cs, hcs, rfl⟩ := List.mem_map.mp h
  intro x hx
  rw [String.toList_ofList] at hx
  exact mem_scanFrom hx (by simp) hcs

/-- 拾った識別子の文字は、本文の文字である。 -/
theorem mem_of_mem_scan {text identifier : String} (h : identifier ∈ scan text) {x : Char}
    (hx : x ∈ identifier.toList) : x ∈ text.toList := by
  obtain ⟨cs, hcs, rfl⟩ := List.mem_map.mp h
  rw [String.toList_ofList] at hx
  exact (scanFrom_sublist [] text.toList).subset (List.mem_flatten.mpr ⟨cs, hcs, hx⟩)

theorem toNat_of_isRest {c : Char} (h : isRest c = true) : c.toNat < 128 := by
  unfold isRest isStart at h
  simp only [Bool.or_eq_true, beq_iff_eq] at h
  rcases h with ((halpha | rfl) | rfl) | hdigit
  · rcases Bool.or_eq_true_iff.mp halpha with hupper | hlower
    · exact Text.toNat_lt_of_le (d := 'Z') (by decide) (of_decide_eq_true hupper).2
    · exact Text.toNat_of_isLower hlower
  · decide
  · decide
  · exact Text.toNat_of_isDigit hdigit

/-- **本文から拾った識別子を分けた語は、空でなく、ASCII の小文字と数字だけからなる。** -/
theorem plain_of_scan {text identifier word : String} (hi : identifier ∈ scan text)
    (hw : word ∈ split identifier) :
    word ≠ "" ∧ ∀ x ∈ word.toList, isPlain x = true :=
  plain_of_ascii (fun c hc => toNat_of_isRest (mem_scan hi c hc)) hw

/-! ## 本文の語 -/

theorem mem_tokenize {text word : String} : word ∈ tokenize text ↔
    isLong word = true ∧ ∃ identifier ∈ scan text, word ∈ split identifier := by
  unfold tokenize
  rw [List.mem_filter, List.mem_flatMap, and_comm]

/-- **集まるのは、二語以上に分かれる識別子の、二文字以上の語である。** -/
theorem mem_allTerms {text word : String} : word ∈ allTerms text ↔
    isLong word = true
      ∧ ∃ identifier ∈ scan text, 2 ≤ (split identifier).length ∧ word ∈ split identifier := by
  unfold allTerms compoundWords
  rw [List.mem_eraseDups, List.mem_filter, List.mem_flatten, and_comm]
  refine and_congr_right fun _ => ⟨?_, ?_⟩
  · rintro ⟨ws, hws, hword⟩
    obtain ⟨hws, hlen⟩ := List.mem_filter.mp hws
    obtain ⟨identifier, hi, rfl⟩ := List.mem_map.mp hws
    exact ⟨identifier, hi, by simpa using hlen, hword⟩
  · rintro ⟨identifier, hi, hlen, hword⟩
    exact ⟨_, List.mem_filter.mpr ⟨List.mem_map_of_mem hi, by simpa using hlen⟩, hword⟩

/-! ## 重複を除いた語 -/

theorem nodup_eraseDups : ∀ words : List String, words.eraseDups.Nodup
  | [] => List.nodup_nil
  | word :: words => by
    rw [List.eraseDups_cons]
    refine List.nodup_cons.mpr ⟨fun hmem => ?_, nodup_eraseDups _⟩
    rw [List.mem_eraseDups, List.mem_filter] at hmem
    simp at hmem
termination_by words => words.length
decreasing_by
  exact Nat.lt_succ_of_le (List.length_filter_le _ _)

/-- **語の集まりが同じなら、重複を除いた語は並べ替えになる。** -/
theorem eraseDups_perm {words words' : List String} (h : ∀ word, word ∈ words ↔ word ∈ words') :
    words.eraseDups.Perm words'.eraseDups := by
  refine (List.perm_ext_iff_of_nodup (nodup_eraseDups words) (nodup_eraseDups words')).mpr ?_
  intro word
  rw [List.mem_eraseDups, List.mem_eraseDups, h]

end CodeSearch.Identifier
