import CodeSearch.Syntax.Tree
import Mathlib.Data.List.Basic

/-!
# 本文の行

行の位置は、前にある改行の数である。本文から取り出した一部も同じように数えるので、一部の中の位置の行は、
一部の始まりの行を足せば本文の行になる。一部が行の途中から始まっていても同じである。

* `text?_eq_some` — 取り出した一部のバイトは、本文のその範囲のバイトである
* `row_mono` — 後ろの位置の行は、前の位置の行より前にならない
* `row_text?` — 一部の中の位置の行と、本文の行の関係
-/

namespace CodeSearch.Source

variable {src : Source} {start stop offset : Nat} {text : String}

/-! ## 本文の一部 -/

theorem toList_loop (bs : ByteArray) (i : Nat) (acc : List UInt8) :
    ByteArray.toList.loop bs i acc = acc.reverse ++ bs.data.toList.drop i := by
  induction i, acc using ByteArray.toList.loop.induct bs with
  | case1 i acc h ih =>
    have hi : i < bs.data.toList.length := by simpa using h
    have hget : bs.get! i = bs.data.toList[i] := getElem!_pos bs.data i h
    rw [ByteArray.toList.loop, if_pos h, ih, List.drop_eq_getElem_cons hi, hget]
    simp
  | case2 i acc h =>
    have hi : bs.data.toList.length ≤ i := by simpa using h
    rw [ByteArray.toList.loop, if_neg h, List.drop_eq_nil_of_le hi, List.append_nil]

/-- バイトの列は、配列の中身を順に並べたものである。 -/
theorem toList_eq (bs : ByteArray) : bs.toList = bs.data.toList := by
  rw [ByteArray.toList, toList_loop]
  simp

/-- **取り出した一部のバイトは、本文のその範囲のバイトである。** -/
theorem text?_eq_some (h : src.text? start stop = some text) :
    start ≤ stop ∧ stop ≤ src.bytes.length
    ∧ (ofString text).bytes = (src.bytes.drop start).take (stop - start) := by
  unfold text? at h
  by_cases hrange : start ≤ stop ∧ stop ≤ src.bytes.length
  · rw [if_pos hrange] at h
    refine ⟨hrange.1, hrange.2, ?_⟩
    unfold String.fromUTF8? at h
    split at h
    · cases h
      show ByteArray.toList _ = _
      rw [toList_eq]
      rfl
    · cases h
  · rw [if_neg hrange] at h
    cases h

/-! ## 行の位置 -/

/-- **後ろの位置の行は、前の位置の行より前にならない。** -/
theorem row_mono (src : Source) {a b : Nat} (h : a ≤ b) : src.row a ≤ src.row b :=
  (List.take_sublist_take_left h).count_le newline

/-- 位置を二つに分けると、行は、前半の行に後半の改行を足したものである。 -/
theorem row_add (src : Source) (start offset : Nat) :
    src.row (start + offset)
      = src.row start + ((src.bytes.drop start).take offset).count newline := by
  unfold row
  rw [List.take_add, List.count_append]

/--
**一部の中の位置の行に、一部の始まりの行を足すと、本文の行になる。**

一部の中の改行は、本文のその範囲の改行なので、一部が行のどこから始まっても成り立つ。
-/
theorem row_text? (h : src.text? start stop = some text) (hoffset : offset ≤ stop - start) :
    src.row start + (ofString text).row offset = src.row (start + offset) := by
  obtain ⟨-, -, hbytes⟩ := text?_eq_some h
  rw [row_add]
  show src.row start + ((ofString text).bytes.take offset).count newline = _
  rw [hbytes, List.take_take, Nat.min_eq_left hoffset]

end CodeSearch.Source
