import CodeSearch.Proofs.Text.LetterCase
import CodeSearch.Text.Blank

/-!
# 空白でない文字

空白文字は切替点の表から数え上げられる（`blankPoints`）。英数字の表にも、小文字への写像の移る先にも、
空白文字は入っていない。だから、英数字は空白でなく、空白でない文字は小文字にしても空白にならない。

* `mem_ranges_of_contains` — 切替点の列の表す集合は、二つずつの組の区間に収まる
* `not_contains_of_avoids` — 昇順の符号位置が集合に入らないことは、切替点の列を一度見れば分かる
* `isBlank_of_isAlphanumeric` — 英数字は空白ではない
* `isBlank_lowercase` — 空白のない文字列は、小文字にしても空白がない
* `flatten_blankWords` — 空白で区切った語をつなぐと、空白でない文字だけが残る
-/

namespace CodeSearch.Text

/-! ## 空白文字の表 -/

/-- 切替点を二つずつ組にした区間。区間の終わりは入らない。 -/
def Toggle.ranges : List Nat → List (Nat × Nat)
  | first :: stop :: ts => (first, stop) :: ranges ts
  | _ => []

/-- 切替点の数が偶数なら、表す集合は組の区間に収まる。 -/
theorem Toggle.mem_ranges_of_contains {n : Nat} : ∀ {ts : List Nat}, ts.length % 2 = 0 →
    Toggle.contains ts n = true → ∃ r ∈ Toggle.ranges ts, r.1 ≤ n ∧ n < r.2
  | [], _, h => by cases h
  | [_], heven, _ => by simp at heven
  | first :: stop :: ts, heven, h => by
    rcases Nat.lt_or_ge n first with hbefore | hfirst
    · rw [contains_of_lt hbefore] at h
      cases h
    · rcases Nat.lt_or_ge n stop with hin | hstop
      · exact ⟨(first, stop), List.mem_cons_self, hfirst, hin⟩
      · rw [contains_of_le hfirst, contains_of_le hstop, Bool.not_not] at h
        rw [List.length_cons, List.length_cons] at heven
        obtain ⟨r, hr, hn⟩ := mem_ranges_of_contains (by omega) h
        exact ⟨r, List.mem_cons_of_mem _ hr, hn⟩

/-- `n` までの切替点を、前から二つずつ落とす。 -/
def Toggle.skip (n : Nat) : List Nat → List Nat
  | first :: stop :: ts => if first ≤ n ∧ stop ≤ n then skip n ts else first :: stop :: ts
  | ts => ts

theorem Toggle.contains_skip {m n : Nat} (h : n ≤ m) : ∀ ts : List Nat,
    contains (skip n ts) m = contains ts m
  | [] => rfl
  | [_] => rfl
  | first :: stop :: ts => by
    rw [skip]
    split
    · next hpast =>
      rw [contains_skip h ts, contains_of_le (Nat.le_trans hpast.1 h),
        contains_of_le (Nat.le_trans hpast.2 h), Bool.not_not]
    · rfl

/-- 昇順の符号位置が、どれも集合に入らないか。落とした切替点は、後の符号位置では見ない。 -/
def Toggle.avoids : List Nat → List Nat → Bool
  | _, [] => true
  | ts, n :: ns => !contains (skip n ts) n && avoids (skip n ts) ns

theorem Toggle.not_contains_of_avoids : ∀ {ts ns : List Nat}, ns.Pairwise (· ≤ ·) →
    avoids ts ns = true → ∀ n ∈ ns, contains ts n = false
  | ts, n :: ns, hsorted, h, m, hm => by
    obtain ⟨hle, hsorted⟩ := List.pairwise_cons.mp hsorted
    obtain ⟨hn, hrest⟩ := Bool.and_eq_true_iff.mp h
    rcases List.mem_cons.mp hm with rfl | hm
    · rw [← contains_skip (Nat.le_refl m) ts]
      exact Bool.not_eq_true' _ |>.mp hn
    · rw [← contains_skip (hle m hm) ts]
      exact not_contains_of_avoids hsorted hrest m hm

theorem mem_ranges_of_isBlank {c : Char} (h : isBlank c = true) :
    ∃ r ∈ Toggle.ranges blankToggles, r.1 ≤ c.toNat ∧ c.toNat < r.2 :=
  Toggle.mem_ranges_of_contains (by decide) h

/-- 空白文字の符号位置をすべて並べたもの。 -/
def blankPoints : List Nat :=
  (Toggle.ranges blankToggles).flatMap fun r => List.range' r.1 (r.2 - r.1)

theorem mem_blankPoints {c : Char} (h : isBlank c = true) : c.toNat ∈ blankPoints := by
  obtain ⟨r, hr, hfirst, hstop⟩ := mem_ranges_of_isBlank h
  refine List.mem_flatMap.mpr ⟨r, hr, List.mem_range'_1.mpr ?_⟩
  omega

/-- 英数字の表にも、小文字への写像の移る先にも、空白文字は入っていない。 -/
theorem tables_avoid_blank :
    (blankPoints.Pairwise (· ≤ ·) ∧ Toggle.avoids alphanumericToggles blankPoints = true)
    ∧ ∀ r ∈ lowerRuns, ∀ b ∈ Toggle.ranges blankToggles,
      (r.last : Int) + r.offset < b.1 ∨ (b.2 : Int) ≤ r.first + r.offset := by
  decide +kernel

/-- **英数字は空白ではない。** -/
theorem isBlank_of_isAlphanumeric {c : Char} (h : isAlphanumeric c = true) :
    isBlank c = false := by
  obtain ⟨hsorted, havoids⟩ := tables_avoid_blank.1
  refine Bool.eq_false_iff.mpr fun hblank => ?_
  have hnot := Toggle.not_contains_of_avoids hsorted havoids c.toNat (mem_blankPoints hblank)
  rw [show Toggle.contains alphanumericToggles c.toNat = true from h] at hnot
  cases hnot

/-! ## 小文字にした文字 -/

/-- **空白でない文字は、小文字にしても空白にならない。** -/
theorem isBlank_lowerChars {c x : Char} (hc : isBlank c = false) (h : x ∈ lowerChars c) :
    isBlank x = false := by
  rcases lowerChars_cases h with rfl | rfl | rfl | ⟨r, hr, hfirst, hlast⟩
  · exact hc
  · decide
  · decide
  · refine Bool.eq_false_iff.mpr fun hblank => ?_
    obtain ⟨b, hb, hin⟩ := mem_ranges_of_isBlank hblank
    have hapart := tables_avoid_blank.2 r hr b hb
    omega

/-- **空白のない文字列は、小文字にしても空白がない。** -/
theorem isBlank_lowercase {s : String} (hs : ∀ c ∈ s.toList, isBlank c = false) :
    ∀ x ∈ (lowercase s).toList, isBlank x = false := by
  intro x hx
  rw [lowercase, String.toList_ofList] at hx
  rcases lowerFrom_cases hx with ⟨c, hc, hx⟩ | rfl | rfl
  · exact isBlank_lowerChars (hs c hc) hx
  · decide
  · decide

theorem lowercase_eq_empty {s : String} : lowercase s = "" ↔ s = "" := by
  constructor
  · intro h
    have hnil := congrArg String.toList h
    rw [lowercase, String.toList_ofList] at hnil
    cases hs : s.toList with
    | nil => exact String.toList_eq_nil_iff.mp hs
    | cons c rest =>
      -- 先頭の文字を小文字にしたものは空でない
      rw [hs, lowerFrom] at hnil
      have hfirst := (List.append_eq_nil_iff.mp hnil).1
      split at hfirst
      · cases hfirst
      · exact absurd hfirst (lowerChars_ne_nil c)
  · rintro rfl
    rfl

/-! ## 空白で区切った語 -/

theorem flatten_blankWordsFrom : ∀ current cs : List Char,
    (blankWordsFrom current cs).flatten = current.reverse ++ cs.filter fun c => !isBlank c
  | current, [] => by
    rw [blankWordsFrom]
    split
    · next hempty => simp [List.isEmpty_iff.mp hempty]
    · simp
  | current, c :: rest => by
    rw [blankWordsFrom]
    by_cases hblank : isBlank c = true
    · have ih := flatten_blankWordsFrom [] rest
      rw [List.reverse_nil, List.nil_append] at ih
      rw [if_pos hblank, List.filter_cons_of_neg (by simp [hblank])]
      split
      · next hempty => rw [ih, List.isEmpty_iff.mp hempty, List.reverse_nil, List.nil_append]
      · rw [List.flatten_cons, ih]
    · rw [if_neg hblank, List.filter_cons_of_pos (by simp [hblank]),
        flatten_blankWordsFrom (c :: current) rest, List.reverse_cons, List.append_assoc,
        List.singleton_append]

/-- **空白で区切った語をつなぐと、空白でない文字だけが残る。** -/
theorem flatten_blankWords (s : String) :
    (blankWords s).flatten = s.toList.filter fun c => !isBlank c := by
  rw [blankWords, flatten_blankWordsFrom, List.reverse_nil, List.nil_append]

end CodeSearch.Text
