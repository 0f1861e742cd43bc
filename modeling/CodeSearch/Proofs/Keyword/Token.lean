import CodeSearch.Keyword.Index
import CodeSearch.Proofs.Keyword.FullText

/-!
# ASCII の小文字と数字の検索語

ASCII の小文字と数字だけの語は、そのまま一つの検索語になる。空白でつないで書いても、
検索語に切れば元の語の列に戻る。

* `tokens_of_plain` — 語は、そのまま一つの検索語である
* `tokens_intercalate` — 空白でつないだ語の列は、元の語の列に切れる
-/

namespace CodeSearch.Keyword

open Text (isPlain)

theorem isTokenChar_of_plain {c : Char} (h : isPlain c = true) : isTokenChar c = true := by
  have hall : ∀ n ∈ List.range 128, isPlain (Char.ofNat n) = true →
      isTokenChar (Char.ofNat n) = true := by decide +kernel
  exact Text.forall_plain (P := fun c => isTokenChar c = true) hall h

/-- ASCII の小文字と数字は、検索語にするときに変わらない。 -/
theorem fold_of_plain {c : Char} (h : isPlain c = true) : fold c = c := by
  have hall : ∀ n ∈ List.range 128, isPlain (Char.ofNat n) = true →
      fold (Char.ofNat n) = Char.ofNat n := by decide +kernel
  exact Text.forall_plain (P := fun c => fold c = c) hall h

/-- 語を読む間は、検索語は切れない。 -/
theorem tokensFrom_append {w : List Char} (hw : ∀ x ∈ w, isPlain x = true) (rest : List Char) :
    ∀ current : List Char,
    tokensFrom current (w ++ rest) = tokensFrom (w.reverse ++ current) rest := by
  induction w with
  | nil => exact fun _ => rfl
  | cons c w ih =>
    intro current
    have hc := hw c List.mem_cons_self
    rw [List.cons_append, tokensFrom, if_pos (isTokenChar_of_plain hc), fold_of_plain hc,
      ih fun x hx => hw x (List.mem_cons_of_mem c hx), List.reverse_cons, List.append_assoc,
      List.singleton_append]

/-- 空白は検索語を切る。 -/
theorem tokensFrom_space {current : List Char} (h : current ≠ []) (rest : List Char) :
    tokensFrom current (' ' :: rest) = current.reverse :: tokensFrom [] rest := by
  have htoken : isTokenChar ' ' = false := by decide +kernel
  have hdropped : isDropped ' ' = false := by decide
  have hcurrent : current.isEmpty = false := by simpa using h
  rw [tokensFrom, htoken, hdropped, hcurrent]
  rfl

theorem PlainWord.reverse_ne_nil {word : String} (h : PlainWord word) :
    word.toList.reverse ≠ [] := by
  intro hnil
  exact h.1 (String.toList_eq_nil_iff.mp (List.reverse_eq_nil_iff.mp hnil))

/-- **ASCII の小文字と数字だけの語は、そのまま一つの検索語である。** -/
theorem tokens_of_plain {word : String} (h : PlainWord word) : tokens word = [word] := by
  have hcurrent : (word.toList.reverse).isEmpty = false := by simpa using h.reverse_ne_nil
  have hread := tokensFrom_append h.2 [] []
  rw [List.append_nil, List.append_nil] at hread
  unfold tokens
  rw [hread, tokensFrom, hcurrent]
  simp

/-- **空白でつないだ語の列は、元の語の列に切れる。** -/
theorem tokens_intercalate : ∀ {words : List String}, (∀ w ∈ words, PlainWord w) →
    tokens (" ".intercalate words) = words
  | [], _ => by decide
  | [w], h => by
    rw [String.intercalate_singleton]
    exact tokens_of_plain (h w List.mem_cons_self)
  | w :: v :: words, h => by
    have hw := h w List.mem_cons_self
    have hrest := tokens_intercalate fun x hx => h x (List.mem_cons_of_mem w hx)
    have hchars : (" ".intercalate (w :: v :: words)).toList
        = w.toList ++ ' ' :: (" ".intercalate (v :: words)).toList := by
      rw [String.intercalate_cons_cons, String.toList_append, String.toList_append,
        List.append_assoc]
      rfl
    unfold tokens at hrest ⊢
    rw [hchars, tokensFrom_append hw.2, List.append_nil, tokensFrom_space hw.reverse_ne_nil,
      List.map_cons, hrest, List.reverse_reverse, String.ofList_toList]

/-! ## 句 -/

/-- 一語の句は、その検索語のある欄に現れる。 -/
theorem occurrences_singleton {word : String} : ∀ {ts : List String}, word ∈ ts →
    0 < occurrences [word] ts
  | t :: ts, h => by
    unfold occurrences
    rcases List.mem_cons.mp h with rfl | h
    · rw [if_pos (by simp)]
      omega
    · have := occurrences_singleton h
      omega

end CodeSearch.Keyword
