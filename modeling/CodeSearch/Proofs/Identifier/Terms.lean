import CodeSearch.Proofs.Identifier.Lossless
import Mathlib.Data.List.Flatten

/-!
# 集めた語は、重複のない語の先頭である

語を集める手順は、識別子を一つずつ分け、その語を一つずつ見て、加えた数が `limit` に達したところで終わる。
見た語の列を `seen` とすると、集まっているのはいつも `seen.eraseDups` であり、加えても先頭の並びは変わらない。
だから、途中で終えても、最後まで集めてから先頭を取っても同じになる（`gatherWords_eq`、`gatherTerms_eq`）。

数を確かめるのは語を加えた後なので、取る数は `limit` ではなく `max limit 1` である。`limit` が 0 のときだけ、
一つ多い。

* `terms_eq` — 集めた語は、重複のない語の先頭の `max limit 1` 個である
* `pairwise_idxOf_eraseDups` — 重複のない語は、元の列に初めて現れた順に並ぶ
* `length_allTerms_le` — 重複のない語の数は、本文の文字の数を超えない
* `terms_truncate` — 以上をまとめたもの
-/

namespace CodeSearch.Identifier

/-- 二語以上に分かれる識別子の語を、順につないだ列。 -/
def compoundSplits (identifiers : List String) : List String :=
  ((identifiers.map split).filter (fun ws => 2 ≤ ws.length)).flatten

theorem compoundSplits_cons (identifier : String) (rest : List String) :
    compoundSplits (identifier :: rest)
      = (if (split identifier).length < 2 then [] else split identifier)
        ++ compoundSplits rest := by
  unfold compoundSplits
  rw [List.map_cons, List.filter_cons]
  by_cases hlen : (split identifier).length < 2
  · rw [if_pos hlen, if_neg (by rw [decide_eq_true_eq]; omega), List.nil_append]
  · rw [if_neg hlen, if_pos (decide_eq_true (Nat.not_lt.mp hlen)), List.flatten_cons]

theorem compoundWords_eq (text : String) :
    compoundWords text = (compoundSplits (scan text)).filter isLong := rfl

/-! ## 集める手順 -/

/-- 新しい語を見ると、集めた語の後ろに加わる。 -/
theorem eraseDups_snoc (seen : List String) (word : String) : (seen ++ [word]).eraseDups
    = if word ∈ seen then seen.eraseDups else seen.eraseDups ++ [word] := by
  rw [List.eraseDups_append]
  split <;> simp_all [List.removeAll, List.eraseDups_cons]

/-- 語をさらに見ても、集めた語の先頭の並びは変わらない。 -/
theorem prefix_eraseDups (seen rest : List String) :
    seen.eraseDups <+: (seen ++ rest).eraseDups := by
  rw [List.eraseDups_append]
  exact List.prefix_append _ _

/-- まだ終わっていない手順が一つの識別子の語を見ると、見た語を集めたものの先頭になる。
終えるのは、取る数に達したときである。 -/
theorem gatherWords_eq (limit : Nat) : ∀ {words seen : List String},
    seen.eraseDups.length < max limit 1 →
    gatherWords limit seen.eraseDups words
      = ((seen ++ words.filter isLong).eraseDups.take (max limit 1),
        decide (max limit 1 ≤ (seen ++ words.filter isLong).eraseDups.length))
  | [], seen, hroom => by
    rw [gatherWords, List.filter_nil, List.append_nil, List.take_of_length_le (Nat.le_of_lt hroom),
      decide_eq_false (Nat.not_le.mpr hroom)]
  | word :: words, seen, hroom => by
    rw [gatherWords, List.filter_cons]
    by_cases hlong : isLong word = true
    · have hsnoc := eraseDups_snoc seen word
      have happend : seen ++ word :: words.filter isLong
          = seen ++ [word] ++ words.filter isLong := by simp
      rw [if_pos hlong, happend]
      by_cases hmem : word ∈ seen
      · rw [if_pos hmem] at hsnoc
        rw [if_neg (by simp [List.mem_eraseDups, hmem]), ← hsnoc]
        exact gatherWords_eq limit (by rwa [hsnoc])
      · rw [if_neg hmem] at hsnoc
        rw [if_pos (by simp [List.mem_eraseDups, hmem, hlong]), ← hsnoc]
        have hlen : (seen ++ [word]).eraseDups.length = seen.eraseDups.length + 1 := by
          rw [hsnoc, List.length_append, List.length_singleton]
        split
        · next hfull =>
          -- 加えたところで、取る数ちょうどになる
          have hmax : max limit 1 = (seen ++ [word]).eraseDups.length := by omega
          obtain ⟨more, hmore⟩ := prefix_eraseDups (seen ++ [word]) (words.filter isLong)
          rw [hmax, ← hmore, List.take_left, decide_eq_true (by simp)]
        · exact gatherWords_eq limit (by omega)
    · rw [if_neg hlong, if_neg (by simp [hlong])]
      exact gatherWords_eq limit hroom

/-- まだ終わっていない手順が識別子を見ていくと、見た語を集めたものの先頭になる。 -/
theorem gatherTerms_eq (limit : Nat) : ∀ {identifiers seen : List String},
    seen.eraseDups.length < max limit 1 →
    gatherTerms limit seen.eraseDups identifiers
      = (seen ++ (compoundSplits identifiers).filter isLong).eraseDups.take (max limit 1)
  | [], seen, hroom => by
    have hnone : compoundSplits [] = [] := rfl
    rw [gatherTerms, hnone, List.filter_nil, List.append_nil,
      List.take_of_length_le (Nat.le_of_lt hroom)]
  | identifier :: rest, seen, hroom => by
    rw [gatherTerms, compoundSplits_cons]
    split
    · rw [List.nil_append]
      exact gatherTerms_eq limit hroom
    · rw [gatherWords_eq limit hroom, List.filter_append, ← List.append_assoc]
      by_cases hfull : max limit 1 ≤ (seen ++ (split identifier).filter isLong).eraseDups.length
      · obtain ⟨more, hmore⟩ := prefix_eraseDups (seen ++ (split identifier).filter isLong)
          ((compoundSplits rest).filter isLong)
        rw [decide_eq_true hfull, ← hmore, List.take_append_of_le_length hfull]
      · rw [decide_eq_false hfull, List.take_of_length_le (by omega)]
        exact gatherTerms_eq limit (by omega)

/-- **集めた語は、重複のない語の先頭の `max limit 1` 個である。** -/
theorem terms_eq (text : String) (limit : Nat) :
    terms text limit = (allTerms text).take (max limit 1) := by
  have hempty : ([] : List String).eraseDups.length < max limit 1 := by
    rw [List.eraseDups_nil, List.length_nil]
    omega
  have h := @gatherTerms_eq limit (scan text) [] hempty
  rwa [List.nil_append, List.eraseDups_nil] at h

/-! ## 現れた順 -/

/-- **選んだ語の重複を除いたものは、元の列に初めて現れた順に並ぶ。** -/
theorem pairwise_idxOf_eraseDups : ∀ (words : List String) (p : String → Bool),
    (words.filter p).eraseDups.Pairwise fun a b => words.idxOf a < words.idxOf b
  | [], _ => .nil
  | word :: words, p => by
    -- 先頭と違う語だけを選んだときの順は、残りの列での順である
    have hrest : ∀ q : String → Bool, (∀ x, q x = true → x ≠ word) →
        (words.filter q).eraseDups.Pairwise fun a b =>
          (word :: words).idxOf a < (word :: words).idxOf b := by
      intro q hq
      refine (pairwise_idxOf_eraseDups words q).imp_of_mem fun {a b} ha hb hab => ?_
      rw [List.mem_eraseDups, List.mem_filter] at ha hb
      rw [List.idxOf_cons, List.idxOf_cons, beq_false_of_ne (hq a ha.2).symm,
        beq_false_of_ne (hq b hb.2).symm]
      exact Nat.succ_lt_succ hab
    rw [List.filter_cons]
    split
    · rw [List.eraseDups_cons, List.filter_filter]
      have hne : ∀ x : String, (!x == word && p x) = true → x ≠ word := fun x hx => by
        simpa using (Bool.and_eq_true_iff.mp hx).1
      refine List.pairwise_cons.mpr ⟨fun x hx => ?_, hrest _ hne⟩
      rw [List.mem_eraseDups, List.mem_filter] at hx
      rw [List.idxOf_cons_self, List.idxOf_cons, beq_false_of_ne (hne x hx.2).symm]
      exact Nat.succ_pos _
    · next hword =>
      refine hrest p ?_
      rintro x hx rfl
      exact hword hx

/-! ## 語の数 -/

theorem eraseDups_sublist : ∀ words : List String, words.eraseDups.Sublist words
  | [] => .slnil
  | word :: words => by
    rw [List.eraseDups_cons]
    exact ((eraseDups_sublist _).trans List.filter_sublist).cons_cons word
termination_by words => words.length
decreasing_by
  exact Nat.lt_succ_of_le (List.length_filter_le _ _)

/-- 部分を分けた語の数は、部分の文字の数を超えない。 -/
theorem length_wordsFrom_le : ∀ (prev : Option Char) (current cs : List Char),
    (wordsFrom prev current cs).length ≤ cs.length + if current.isEmpty then 0 else 1
  | prev, current, [] => by
    rw [wordsFrom]
    split <;> simp
  | prev, current, c :: rest => by
    have hnew := length_wordsFrom_le (some c) (Text.lowerChars c).reverse rest
    have hgrown := length_wordsFrom_le (some c) ((Text.lowerChars c).reverse ++ current) rest
    rw [wordsFrom]
    split
    · next hcut =>
      rw [Bool.and_eq_true, Bool.not_eq_true'] at hcut
      rw [List.length_cons, List.length_cons, hcut.2]
      split at hnew <;> simp <;> omega
    · rw [List.length_cons]
      split at hgrown <;> omega

/-- 一つずつの長さが増えなければ、つないだ長さも増えない。 -/
theorem length_flatMap_le {α β : Type} {f : List α → List β} (h : ∀ xs, (f xs).length ≤ xs.length) :
    ∀ xss : List (List α), (xss.flatMap f).length ≤ xss.flatten.length
  | [] => Nat.le_refl 0
  | xs :: xss => by
    rw [List.flatMap_cons, List.length_append, List.flatten_cons, List.length_append]
    exact Nat.add_le_add (h xs) (length_flatMap_le h xss)

/-- 識別子を分けた語の数は、識別子の文字の数を超えない。 -/
theorem length_split_le (identifier : String) :
    (split identifier).length ≤ identifier.length := by
  rw [split, List.length_map]
  calc ((partsFrom [] identifier.toList).flatMap (wordsFrom none [])).length
      ≤ (partsFrom [] identifier.toList).flatten.length :=
        length_flatMap_le (fun part => length_wordsFrom_le none [] part) _
    _ = (identifier.toList.filter Text.isAlphanumeric).length := by
        rw [flatten_partsFrom, List.reverse_nil, List.nil_append]
    _ ≤ identifier.toList.length := List.length_filter_le _ _
    _ = identifier.length := String.length_toList

/-- **重複のない語の数は、本文の文字の数を超えない。** -/
theorem length_allTerms_le (text : String) : (allTerms text).length ≤ text.length := by
  have hcompound : (compoundSplits (scan text)).Sublist ((scan text).map split).flatten :=
    List.filter_sublist.flatten
  calc (allTerms text).length
      ≤ (compoundWords text).length := (eraseDups_sublist _).length_le
    _ ≤ (compoundSplits (scan text)).length := List.length_filter_le _ _
    _ ≤ ((scan text).map split).flatten.length := hcompound.length_le
    _ = ((scanFrom [] text.toList).flatMap fun cs => split (String.ofList cs)).length := by
        rw [scan, List.map_map, List.flatMap_def]
        rfl
    _ ≤ (scanFrom [] text.toList).flatten.length :=
        length_flatMap_le (fun cs => String.length_ofList ▸ length_split_le (String.ofList cs)) _
    _ ≤ text.toList.length := (scanFrom_sublist [] text.toList).length_le
    _ = text.length := String.length_toList

/-! ## 集めた語 -/

/--
**集めた語は、重複のない語の列の先頭である。**

本文の文字の数以上の `unlimited` まで集めたものは、途中で終えていない。

* 重複がなく、二語以上に分かれる識別子の語をつないだ列に、初めて現れた順に並ぶ。
* その列の二文字以上の語が、ちょうどすべて集まる。どれも本文の語である。
* どの `limit` でも、集めた語はその先頭の `max limit 1` 個である。だから、先頭の `limit` 個になるのも、
  `limit` 個を超えないのも、`limit` が 0 でないか、集める語がないときに限る。
-/
theorem terms_truncate (text : String) {unlimited : Nat} (hfits : text.length ≤ unlimited) :
    (terms text unlimited).Nodup
    ∧ (terms text unlimited).Pairwise (fun a b =>
      (compoundSplits (scan text)).idxOf a < (compoundSplits (scan text)).idxOf b)
    ∧ (∀ word, word ∈ terms text unlimited ↔
      2 ≤ word.length ∧ word ∈ compoundSplits (scan text))
    ∧ terms text unlimited ⊆ tokenize text
    ∧ ∀ limit, terms text limit = (terms text unlimited).take (max limit 1)
      ∧ (terms text limit = (terms text unlimited).take limit
        ↔ limit ≠ 0 ∨ terms text unlimited = [])
      ∧ ((terms text limit).length ≤ limit ↔ limit ≠ 0 ∨ terms text unlimited = []) := by
  have hall : terms text unlimited = allTerms text := by
    have hle := length_allTerms_le text
    rw [terms_eq, List.take_of_length_le (by omega)]
  have hmem : ∀ word, word ∈ allTerms text ↔
      2 ≤ word.length ∧ word ∈ compoundSplits (scan text) := by
    intro word
    rw [allTerms, List.mem_eraseDups, compoundWords_eq, List.mem_filter, and_comm, isLong,
      decide_eq_true_eq]
    rfl
  rw [hall]
  refine ⟨nodup_eraseDups _, pairwise_idxOf_eraseDups _ isLong, hmem, fun word hword => ?_,
    fun limit => ?_⟩
  · obtain ⟨hlong, identifier, hi, -, hin⟩ := mem_allTerms.mp hword
    exact mem_tokenize.mpr ⟨hlong, identifier, hi, hin⟩
  · rw [terms_eq]
    refine ⟨rfl, ?_⟩
    rcases Nat.eq_zero_or_pos limit with rfl | hpos
    · -- 0 個まで集めても、語があれば一つ残る
      cases allTerms text <;> simp
    · rw [Nat.max_eq_left hpos]
      exact ⟨⟨fun _ => Or.inl (Nat.ne_of_gt hpos), fun _ => rfl⟩,
        ⟨fun _ => Or.inl (Nat.ne_of_gt hpos), fun _ => List.length_take_le _ _⟩⟩

/-- 同じ語を二度含む本文では、二度めの `go` は集まらない。 -/
theorem terms_truncate_repeated :
    "goTo goUp".length ≤ 100
    ∧ terms "goTo goUp" 100 = ["go", "to", "up"]
    ∧ terms "goTo goUp" 2 = (terms "goTo goUp" 100).take 2
    ∧ (terms "goTo goUp" 2).length ≤ 2
    ∧ "up" ∈ tokenize "goTo goUp" := by
  have hfits : "goTo goUp".length ≤ 100 := by decide
  have hterms : terms "goTo goUp" 100 = ["go", "to", "up"] := by decide
  obtain ⟨-, -, -, hsub, hlimit⟩ := terms_truncate "goTo goUp" hfits
  obtain ⟨-, htake, hlen⟩ := hlimit 2
  exact ⟨hfits, hterms, htake.mpr (Or.inl (by decide)), hlen.mpr (Or.inl (by decide)),
    hsub (by rw [hterms]; decide)⟩

/-- 一つも求めなくても、語が一つ集まる。 -/
theorem terms_zero_nonempty :
    terms "goTo" 0 = ["go"] ∧ ¬(terms "goTo" 0).length ≤ 0
    ∧ terms "goTo" 0 ≠ (terms "goTo" 18446744073709551615).take 0 := by
  have hterms : terms "goTo" 0 = ["go"] := by decide
  rw [hterms, List.take_zero]
  exact ⟨rfl, by decide, by decide⟩

end CodeSearch.Identifier
