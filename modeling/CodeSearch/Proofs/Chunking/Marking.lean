import CodeSearch.Proofs.Chunking.Tiling
import CodeSearch.Proofs.Grammar.Access

/-!
# 構文木から求めた切れ目の種類

行頭の宣言の切れ目には種類の分からないものがあるが、構文木を歩いて見つける切れ目は、
最上位のものも、内側のものも、スクリプトの中のものも、節から種類が決まり、行番号は 1 以上である。
整えても、新しい切れ目は現れない。

* `marked_topAll` — 木を歩いて見つける切れ目には、どれも種類がある
* `marked_gather` — スクリプトの中の切れ目も同じである
* `marked_findBreakpoints` — 整えた切れ目も同じである
-/

namespace CodeSearch

/-! ## 整えること -/

namespace Breakpoint

/-- 行番号が 1 以上で、種類の分かる切れ目。 -/
def Marked (p : Breakpoint) : Prop := 1 ≤ p.line ∧ p.kind.isSome

theorem mem_foldl_insertByLine {x : Breakpoint} : ∀ (ps : List Breakpoint) {acc : List Breakpoint},
    x ∈ ps.foldl (fun acc p => insertByLine p acc) acc → x ∈ ps ∨ x ∈ acc
  | [], _, h => Or.inr h
  | p :: ps, acc, h => by
    rcases mem_foldl_insertByLine ps h with h | h
    · exact Or.inl (List.mem_cons_of_mem p h)
    · rcases mem_insertByLine h with rfl | h
      · exact Or.inl List.mem_cons_self
      · exact Or.inr h

/-- 整えた切れ目は、見つけた切れ目のどれかである。 -/
theorem mem_of_mem_normalize {x : Breakpoint} {ps : List Breakpoint} (h : x ∈ normalize ps) :
    x ∈ ps := by
  rcases mem_foldl_insertByLine ps ((collapseFrom_sublist false _).mem h) with h | h
  · exact h
  · simp at h

end Breakpoint

/-! ## 木を歩くこと -/

namespace Scope

variable (s : Scope)

theorem marked_pointAt (row : Nat) (kind : ChunkType) (depth : Nat) :
    (s.pointAt row kind depth).Marked :=
  ⟨by show 1 ≤ row + 1 + s.lineOffset; omega, rfl⟩

theorem marked_nested : ∀ (levels depth : Nat) (n : Node), ∀ p ∈ s.nested levels depth n, p.Marked
  | 0, _, _ => nofun
  | levels + 1, depth, n => by
    intro p hp
    unfold nested at hp
    split at hp
    · simp at hp
    · rcases List.mem_append.mp hp with hp | hp
      · rw [Option.mem_toList, Option.map_eq_some_iff] at hp
        obtain ⟨kind, -, rfl⟩ := hp
        exact s.marked_pointAt _ _ _
      · obtain ⟨c, -, hp⟩ := List.mem_flatMap.mp hp
        exact marked_nested levels (depth + 1) c p hp

theorem marked_topPoints (before : List Node) (n : Node) :
    ∀ f ∈ s.topPoints before n, ∀ p, f.point? = some p → p.Marked := by
  intro f hf p hfp
  unfold topPoints at hf
  rcases List.mem_append.mp hf with hf | hf
  · split at hf
    · simp at hf
    · rcases List.mem_cons.mp hf with rfl | hf
      · cases hfp
        exact s.marked_pointAt _ _ _
      · -- 残るのはスクリプトの節で、切れ目ではない
        split at hf
        · rw [List.mem_singleton.mp hf] at hfp
          cases hfp
        · simp at hf
  · split at hf
    · simp at hf
    · obtain ⟨q, hq, rfl⟩ := List.mem_map.mp hf
      cases hfp
      obtain ⟨c, -, hq⟩ := List.mem_flatMap.mp hq
      exact s.marked_nested _ _ c _ hq

mutual

theorem marked_topNode (before : List Node) :
    ∀ n : Node, ∀ f ∈ s.topNode before n, ∀ p, f.point? = some p → p.Marked
  | .mk k a b cs fs => by
    intro f hf
    unfold topNode at hf
    split at hf
    · exact marked_topAll [] cs f hf
    · exact s.marked_topPoints before _ f hf

theorem marked_topAll (before : List Node) :
    ∀ ns : List Node, ∀ f ∈ s.topAll before ns, ∀ p, f.point? = some p → p.Marked
  | [] => nofun
  | c :: rest => by
    intro f hf
    unfold topAll at hf
    rcases List.mem_append.mp hf with hf | hf
    · exact marked_topNode before c f hf
    · exact marked_topAll (c :: before) rest f hf

end

/-! ### スクリプト -/

variable {A : Answers}

theorem marked_scriptPoints (trees : Trees) (element : Node) :
    (s.scriptPoints trees element).Ensures A fun ps => ∀ p ∈ ps, p.Marked := by
  unfold scriptPoints
  split
  · exact .pure nofun
  · simp only []
    split
    · exact .pure nofun
    · refine (Access.Ensures.trivial _).bind fun grammar _ => ?_
      split
      · split
        · refine .pure fun p hp => ?_
          obtain ⟨f, hf, hfp⟩ := List.mem_filterMap.mp hp
          exact marked_topAll _ [] _ f hf p hfp
        · exact .pure nofun
      · exact .pure nofun

theorem marked_gather (trees : Trees) : ∀ found : List Found,
    (∀ f ∈ found, ∀ p, f.point? = some p → p.Marked) →
    (s.gather trees found).Ensures A fun ps => ∀ p ∈ ps, p.Marked
  | [], _ => .pure nofun
  | .point q :: rest, h => by
    refine (marked_gather trees rest fun f hf => h f (List.mem_cons_of_mem _ hf)).bind
      fun ps hps => .pure fun p hp => ?_
    rcases List.mem_cons.mp hp with rfl | hp
    · exact h (.point p) List.mem_cons_self p rfl
    · exact hps p hp
  | .script element :: rest, h => by
    refine (marked_scriptPoints s trees element).bind fun inside hinside => ?_
    refine (marked_gather trees rest fun f hf => h f (List.mem_cons_of_mem _ hf)).bind
      fun ps hps => .pure fun p hp => ?_
    rcases List.mem_append.mp hp with hp | hp
    · exact hinside p hp
    · exact hps p hp

end Scope

namespace Chunking

theorem marked_extract (A : Answers) (trees : Trees) (language : Language) (text : String)
    (root : Node) : (Breakpoint.extract trees language text root).Ensures A
      fun ps => ∀ p ∈ ps, p.Marked := by
  unfold Breakpoint.extract
  split
  · exact .pure nofun
  · exact Scope.marked_gather _ trees _ (Scope.marked_topAll _ [] _)

/-- **構文木から求めた切れ目には、どれも種類がある。** -/
theorem marked_findBreakpoints (A : Answers) (trees : Trees) (language : Language)
    (text : String) : (findBreakpoints trees language text).Ensures A
      fun found => ∀ points, found = .ok points → ∀ p ∈ points, p.Marked := by
  unfold findBreakpoints
  refine (Access.Ensures.trivial _).bind fun grammar _ => ?_
  cases grammar with
  | none => exact .pure nofun
  | some g =>
    simp only []
    split
    · exact .pure nofun
    · split
      · exact .pure nofun
      · refine (marked_extract A trees language text _).bind fun points hpoints => ?_
        split
        · exact .pure nofun
        · refine .pure ?_
          rintro _ ⟨⟩ p hp
          exact hpoints p (Breakpoint.mem_of_mem_normalize hp)

end Chunking

end CodeSearch
