/-!
# 安定な整列

前から一つずつ取り、済んだ列の後ろから自分より後に来るべきものを越えて入れる。
越えるのは `before x y` が真のときだけなので、同点は元の順のままである。
-/

namespace CodeSearch

variable {α : Type}

/-- 逆順に並んだ列 `ys` に `x` を入れる。`before x y` である間だけ `y` を越える。 -/
def insertBack (before : α → α → Bool) (x : α) : List α → List α
  | [] => [x]
  | y :: ys => if before x y then y :: insertBack before x ys else x :: y :: ys

/-- 安定な整列。`before a b` なら `a` を `b` より前に置く。 -/
def stableSort (before : α → α → Bool) (xs : List α) : List α :=
  (xs.foldl (fun acc x => insertBack before x acc) []).reverse

theorem insertBack_perm (before : α → α → Bool) (x : α) (ys : List α) :
    (insertBack before x ys).Perm (x :: ys) := by
  induction ys with
  | nil => exact List.Perm.refl _
  | cons y ys ih =>
    unfold insertBack
    split
    · exact (List.Perm.cons y ih).trans (List.Perm.swap x y ys)
    · exact List.Perm.refl _

/-- 整列は並べ替えである。 -/
theorem stableSort_perm (before : α → α → Bool) (xs : List α) :
    (stableSort before xs).Perm xs := by
  have hfold : ∀ (ys acc : List α),
      (ys.foldl (fun a x => insertBack before x a) acc).Perm (ys.reverse ++ acc) := by
    intro ys
    induction ys with
    | nil => intro acc; exact List.Perm.refl _
    | cons y ys ih =>
      intro acc
      rw [List.foldl_cons, List.reverse_cons, List.append_assoc]
      exact (ih _).trans (List.Perm.append_left _ (insertBack_perm before y acc))
  have h := hfold xs []
  rw [List.append_nil] at h
  exact (List.reverse_perm _).trans (h.trans (List.reverse_perm _))

end CodeSearch
