import CodeSearch.Proofs.Chunking.Partition
import Mathlib.Data.List.Nodup

/-!
# 断片の名前は重ならない

断片の名前は、パスと二つの行番号を区切りでつないだだけのものである。
行番号は数字だけなので、後ろから読めば区切りの場所が決まり、名前から元の三つが戻る。
パスに区切りや数字があってもよい。

* `chunkId_inj` — 名前が同じなら、パスも行の範囲も同じである
* `LinePartition.ids_nodup` — 一つのファイルの断片の名前は互いに違う
* `LinePartition.ids_nodup_flatMap` — パスの違うファイルの断片は、名前も違う
-/

namespace CodeSearch

/-- 後ろの部分に現れない区切りで切る場所は、一つに決まる。 -/
theorem append_separator_inj {α : Type} {sep : α} {xs xs' ys ys' : List α}
    (h : xs ++ sep :: ys = xs' ++ sep :: ys') (hy : sep ∉ ys) (hy' : sep ∉ ys') :
    xs = xs' ∧ ys = ys' := by
  rcases List.append_eq_append_iff.mp h with ⟨zs, hx, hz⟩ | ⟨zs, hx, hz⟩
  · cases zs with
    | nil =>
      rw [List.append_nil] at hx
      exact ⟨hx.symm, (List.cons.inj hz).2⟩
    | cons z zs =>
      exfalso
      have hys : ys = zs ++ sep :: ys' := (List.cons.inj hz).2
      exact hy (by rw [hys]; simp)
  · cases zs with
    | nil =>
      rw [List.append_nil] at hx
      exact ⟨hx, (List.cons.inj hz).2.symm⟩
    | cons z zs =>
      exfalso
      have hys : ys' = zs ++ sep :: ys := (List.cons.inj hz).2
      exact hy' (by rw [hys]; simp)

/-- 数の十進表記に、数字でない文字は現れない。 -/
theorem not_mem_toString {c : Char} (h : c.isDigit = false) (n : Nat) :
    c ∉ (toString n).toList := by
  intro hm
  rw [Nat.toString_eq_repr, Nat.toList_repr] at hm
  have := Nat.isDigit_of_mem_toDigits (by decide) (by decide) hm
  rw [h] at this
  exact absurd this (by decide)

/-- 数の十進表記は、数を決める。 -/
theorem toString_nat_inj {m n : Nat} (h : (toString m).toList = (toString n).toList) : m = n := by
  rw [Nat.toString_eq_repr, Nat.toString_eq_repr, Nat.toList_repr, Nat.toList_repr] at h
  have hread := congrArg (fun cs => Nat.ofDigitChars 10 cs 0) h
  rwa [Nat.ofDigitChars_ten_toDigits, Nat.ofDigitChars_ten_toDigits] at hread

theorem toList_chunkId (path : String) (first last : Nat) :
    (chunkId path first last).toList
      = (path.toList ++ ':' :: (toString first).toList) ++ '-' :: (toString last).toList := by
  unfold chunkId
  simp

/-- **名前が同じ断片は、パスも行の範囲も同じである。** -/
theorem chunkId_inj {p q : String} {first last first' last' : Nat}
    (h : chunkId p first last = chunkId q first' last') :
    p = q ∧ first = first' ∧ last = last' := by
  have hlist := congrArg String.toList h
  rw [toList_chunkId, toList_chunkId] at hlist
  obtain ⟨hfront, hlast⟩ := append_separator_inj hlist
    (not_mem_toString (by decide) last) (not_mem_toString (by decide) last')
  obtain ⟨hpath, hfirst⟩ := append_separator_inj hfront
    (not_mem_toString (by decide) first) (not_mem_toString (by decide) first')
  exact ⟨String.toList_inj.mp hpath, toString_nat_inj hfirst, toString_nat_inj hlast⟩

namespace LinePartition

/-- 一つのファイルの断片の名前は互いに違う。 -/
theorem ids_nodup {path text : String} {chunks : List Chunk}
    (h : LinePartition path text chunks) : (chunks.map (·.id)).Nodup := by
  rw [List.nodup_iff_pairwise_ne, List.pairwise_map]
  refine h.ordered.imp_of_mem ?_
  intro a b ha hb hab heq
  rw [h.id_eq a ha, h.id_eq b hb] at heq
  have hfirst := (chunkId_inj heq).2.1
  have hb := h.bounds a ha
  omega

/-- **パスの違うファイルの断片は、名前も違う。** ファイルごとの切り方は何でもよい。 -/
theorem ids_nodup_flatMap {α : Type} {path text : α → String} {chunks : α → List Chunk}
    {xs : List α} (hn : (xs.map path).Nodup)
    (h : ∀ x ∈ xs, LinePartition (path x) (text x) (chunks x)) :
    ((xs.flatMap chunks).map (·.id)).Nodup := by
  rw [List.map_flatMap, List.nodup_flatMap]
  refine ⟨fun x hx => (h x hx).ids_nodup, ?_⟩
  rw [List.nodup_iff_pairwise_ne, List.pairwise_map] at hn
  refine hn.imp_of_mem ?_
  intro x y hx hy hne id hid hid'
  -- 名前が同じ断片はパスも同じなので、パスの違うファイルには現れない
  obtain ⟨c, hc, rfl⟩ := List.mem_map.mp hid
  obtain ⟨d, hd, heq⟩ := List.mem_map.mp hid'
  rw [(h x hx).id_eq c hc, (h y hy).id_eq d hd] at heq
  exact hne (chunkId_inj heq).1.symm

end LinePartition

end CodeSearch
