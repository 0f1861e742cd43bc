import CodeSearch.Text.Line
import Mathlib.Data.List.Infix
import Mathlib.Data.List.TakeWhile

/-!
# 改行で終わる行と、両端の空白

改行で終わる行を前に並べた本文は、その行と、残りの本文の行に分かれる。行の末尾の復帰は落ちるが、復帰は空白なので、
両端の空白を落とした形は変わらない。空白でない文字だけの印は、両端の空白を落としても落とさなくても、行のどこかに
現れるかどうかが同じである。

* `lines_terminated_append` — 改行で終わる行は、後ろの本文と別々に読める
* `trim_dropReturn` — 復帰を落としても、両端の空白を落とした形は変わらない
* `trim_eq_nil_iff` — 空白だけの行は、両端の空白を落とすと空になる
* `hasInfix_trim` — 空白でない印は、両端の空白の中には現れない
-/

namespace CodeSearch.Text

variable {cs rest pat : List Char} {l : String} {ls : List String}

/-! ## 改行で終わる行 -/

/-- 改行で終わる行を並べた本文。 -/
def terminated : List String → String
  | [] => ""
  | l :: ls => l ++ "\n" ++ terminated ls

/-- 改行の直前の復帰を落とした行。 -/
def dropReturn (l : String) : String := String.ofList (closeLine l.toList.reverse)

/-- 改行まで読むと、溜めた文字が一つの行になる。 -/
theorem linesFrom_append_newline : ∀ {current cs : List Char}, '\n' ∉ cs →
    linesFrom current (cs ++ '\n' :: rest)
      = closeLine (cs.reverse ++ current) :: linesFrom [] rest
  | current, [], _ => by simp [linesFrom]
  | current, c :: cs, h => by
    obtain ⟨hc, hcs⟩ := List.ne_and_not_mem_of_not_mem_cons h
    rw [List.cons_append, linesFrom, if_neg (Ne.symm hc), linesFrom_append_newline hcs,
      List.reverse_cons, List.append_assoc]
    rfl

/-- **改行で終わる行は、後ろの本文と別々に読める。** -/
theorem lines_terminated_append (t : String) : ∀ {ls : List String}, (∀ l ∈ ls, '\n' ∉ l.toList) →
    lines (terminated ls ++ t) = ls.map dropReturn ++ lines t
  | [], _ => by simp [terminated]
  | l :: ls, h => by
    have hl : '\n' ∉ l.toList := h l List.mem_cons_self
    have ih := lines_terminated_append t fun x hx => h x (List.mem_cons_of_mem l hx)
    unfold lines at ih ⊢
    rw [terminated, String.append_assoc, String.append_assoc, String.toList_append,
      String.toList_append, show "\n".toList = ['\n'] from rfl, List.singleton_append,
      linesFrom_append_newline hl, List.map_cons, ih, List.append_nil]
    rfl

/-! ## 両端の空白 -/

/-- 両端の空白を落とすと、前と後ろの空白だけがなくなる。 -/
theorem exists_trim (cs : List Char) : ∃ front back, cs = front ++ (trim cs ++ back)
    ∧ (∀ c ∈ front, isBlank c = true) ∧ ∀ c ∈ back, isBlank c = true := by
  have hback (ds : List Char) : ds = trimEnd ds ++ (ds.reverse.takeWhile isBlank).reverse := by
    rw [trimEnd, ← List.reverse_append, List.takeWhile_append_dropWhile, List.reverse_reverse]
  refine ⟨cs.takeWhile isBlank, ((trimStart cs).reverse.takeWhile isBlank).reverse, ?_,
    fun c hc => List.mem_takeWhile_imp hc, fun c hc => ?_⟩
  · rw [trim, ← hback, trimStart, List.takeWhile_append_dropWhile]
  · exact List.mem_takeWhile_imp (List.mem_reverse.mp hc)

/-- 空白だけの列は、両端の空白を落とすと空になる。 -/
theorem trim_eq_nil_iff : trim cs = [] ↔ ∀ c ∈ cs, isBlank c = true := by
  constructor
  · intro h
    obtain ⟨front, back, hsplit, hfront, hback⟩ := exists_trim cs
    rw [hsplit, h, List.nil_append]
    exact List.forall_mem_append.mpr ⟨hfront, hback⟩
  · intro h
    have hstart : trimStart cs = [] := List.dropWhile_eq_nil_iff.mpr h
    rw [trim, hstart]
    rfl

theorem trimEnd_concat {c : Char} (hc : isBlank c = true) (cs : List Char) :
    trimEnd (cs ++ [c]) = trimEnd cs := by
  simp [trimEnd, hc]

/-- 末尾の空白は、両端の空白を落とした形を変えない。 -/
theorem trim_concat {c : Char} (hc : isBlank c = true) (cs : List Char) :
    trim (cs ++ [c]) = trim cs := by
  unfold trim trimStart
  rw [List.dropWhile_append]
  split
  · next hnil => simp [List.isEmpty_iff.mp hnil, hc]
  · exact trimEnd_concat hc _

/-- **復帰を落としても、両端の空白を落とした形は変わらない。** -/
theorem trim_dropReturn (l : String) : trim (dropReturn l).toList = trim l.toList := by
  unfold dropReturn closeLine
  rw [String.toList_ofList]
  split
  · next rest hrest =>
    have hl : l.toList = rest.reverse ++ ['\r'] := by
      rw [← List.reverse_cons, ← hrest, List.reverse_reverse]
    rw [hl, trim_concat (by decide)]
  · rw [List.reverse_reverse]

/-! ## 行の中の印 -/

theorem hasInfix_iff : ∀ {cs : List Char}, hasInfix pat cs = true ↔ pat <:+: cs
  | [] => by simp [hasInfix]
  | c :: cs => by
    rw [hasInfix, Bool.or_eq_true, List.isPrefixOf_iff_prefix, hasInfix_iff, List.infix_cons_iff]

/-- 空白でない印は、前に付いた空白には掛からない。 -/
theorem infix_of_blank_append (hne : pat ≠ []) (hpat : ∀ c ∈ pat, isBlank c = false) :
    ∀ {front : List Char}, (∀ c ∈ front, isBlank c = true) → pat <:+: front ++ cs → pat <:+: cs
  | [], _, h => h
  | b :: front, hfront, h => by
    obtain ⟨hb, hfront⟩ := List.forall_mem_cons.mp hfront
    rcases List.infix_cons_iff.mp h with hprefix | hrest
    · -- 印の先頭の文字が空白になってしまう
      obtain ⟨p, pat, rfl⟩ := List.exists_cons_of_ne_nil hne
      rw [← (List.cons_prefix_cons.mp hprefix).1, hpat p List.mem_cons_self] at hb
      cases hb
    · exact infix_of_blank_append hne hpat hfront hrest

/-- **空白でない印は、両端の空白を落としても落とさなくても、現れるかどうかが同じである。** -/
theorem hasInfix_trim (hne : pat ≠ []) (hpat : ∀ c ∈ pat, isBlank c = false) (cs : List Char) :
    hasInfix pat (trim cs) = hasInfix pat cs := by
  obtain ⟨front, back, hsplit, hfront, hback⟩ := exists_trim cs
  rw [Bool.eq_iff_iff, hasInfix_iff, hasInfix_iff]
  constructor
  · intro h
    rw [hsplit]
    exact h.trans ⟨front, back, (List.append_assoc _ _ _)⟩
  · intro h
    rw [hsplit] at h
    have hleft := infix_of_blank_append hne hpat hfront h
    rw [← List.reverse_infix, List.reverse_append] at hleft
    have hright := infix_of_blank_append (by simpa using hne) (by simpa using hpat)
      (by simpa using hback) hleft
    exact List.reverse_infix.mp hright

end CodeSearch.Text
