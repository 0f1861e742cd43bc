import CodeSearch.Proofs.Rank

/-!
# 順位の統合は、逆順位の和の順に並べる

統合は、断片の名前を鍵とする表に点を加えていき、最後に点の大きい順に並べる。表の名前は初めて現れた順に
並び（`FirstSeen`）、項目の中身は初めて現れた順位のもの、点はそれまでの逆順位の和である。

* `held?_credit` — 点を加えると、その名前の項目だけが変わる
* `nodup_fuse`、`mem_fuse`、`descending_fuse` — 点の型によらないこと
* `total_tally` — 正確な計算では、点は逆順位の和（`points`）である
* `fuse_sums_reciprocal_ranks` — 以上をまとめたもの。どの順位でも劣らない断片は、後にならない
-/

namespace CodeSearch.Rank

open Quantity

variable {α : Type} [Quantity α]

/-! ## 表 -/

/-- 名前の列 `ids` が、`seen` の名前を初めて現れた順に並べたものであること。 -/
structure FirstSeen (seen ids : List String) : Prop where
  mem_iff : ∀ id, id ∈ ids ↔ id ∈ seen
  ordered : ids.Pairwise fun a b => seen.idxOf a < seen.idxOf b

namespace FirstSeen

variable {seen ids : List String} {id : String}

theorem nodup (h : FirstSeen seen ids) : ids.Nodup :=
  h.ordered.imp fun hlt heq => by
    rw [heq] at hlt
    exact Nat.lt_irrefl _ hlt

theorem idxOf_append_of_mem (h : FirstSeen seen ids) (hid : id ∈ ids) (more : List String) :
    (seen ++ more).idxOf id = seen.idxOf id := by
  rw [List.idxOf_append, if_pos ((h.mem_iff id).mp hid)]

/-- もうある名前が現れても、並びは変わらない。 -/
theorem old (h : FirstSeen seen ids) (hid : id ∈ ids) : FirstSeen (seen ++ [id]) ids where
  mem_iff := by
    intro x
    rw [List.mem_append, List.mem_singleton, h.mem_iff]
    refine ⟨Or.inl, ?_⟩
    rintro (hx | rfl)
    · exact hx
    · exact (h.mem_iff x).mp hid
  ordered := h.ordered.imp_of_mem fun ha hb hlt => by
    rwa [h.idxOf_append_of_mem ha, h.idxOf_append_of_mem hb]

/-- 新しい名前は、最後に並ぶ。 -/
theorem new (h : FirstSeen seen ids) (hid : id ∉ ids) :
    FirstSeen (seen ++ [id]) (ids ++ [id]) where
  mem_iff := by
    intro x
    rw [List.mem_append, List.mem_append, h.mem_iff]
  ordered := by
    refine List.pairwise_append.mpr ⟨h.ordered.imp_of_mem fun ha hb hlt => ?_,
      List.pairwise_singleton _ _, fun a ha b hb => ?_⟩
    · rwa [h.idxOf_append_of_mem ha, h.idxOf_append_of_mem hb]
    · rw [List.mem_singleton.mp hb, h.idxOf_append_of_mem ha, List.idxOf_append,
        if_neg fun hin => hid ((h.mem_iff id).mpr hin)]
      exact Nat.lt_add_left _ (List.idxOf_lt_length_iff.mpr ((h.mem_iff a).mp ha))

end FirstSeen

/-- 点を加えても断片の名前の並びは変わらず、なかった名前だけが後ろに加わる。 -/
theorem ids_credit (h : Hit α) (points : α) : ∀ table : List (Hit α × α),
    (credit h points table).map (·.1.chunk.id)
      = if h.chunk.id ∈ table.map (·.1.chunk.id) then table.map (·.1.chunk.id)
        else table.map (·.1.chunk.id) ++ [h.chunk.id]
  | [] => by simp [credit]
  | (g, total) :: rest => by
    unfold credit
    by_cases hid : g.chunk.id = h.chunk.id
    · rw [if_pos hid]
      simp [hid]
    · rw [if_neg hid, List.map_cons, ids_credit h points rest]
      by_cases hin : h.chunk.id ∈ rest.map (·.1.chunk.id)
      · simp only [hin, List.map_cons, List.mem_cons, or_true, if_true]
      · simp only [hin, List.map_cons, List.mem_cons, or_false, if_neg (Ne.symm hid), if_false,
          List.cons_append]

theorem FirstSeen.credit {seen : List String} {table : List (Hit α × α)}
    (h : FirstSeen seen (table.map (·.1.chunk.id))) (x : Hit α) (points : α) :
    FirstSeen (seen ++ [x.chunk.id]) ((Rank.credit x points table).map (·.1.chunk.id)) := by
  rw [ids_credit]
  split
  · next hin => exact h.old hin
  · next hnot => exact h.new hnot

theorem FirstSeen.creditAll (k : Nat) : ∀ (hits : List (Hit α)) {seen : List String}
    {table : List (Hit α × α)} (rank : Nat), FirstSeen seen (table.map (·.1.chunk.id)) →
    FirstSeen (seen ++ hits.map (·.chunk.id))
      ((creditAll k table rank hits).map (·.1.chunk.id))
  | [], _, _, _, h => by rwa [List.map_nil, List.append_nil]
  | x :: hits, seen, table, rank, h => by
    have hall := FirstSeen.creditAll k hits (rank + 1) (h.credit x (contribution k rank))
    rwa [List.append_assoc] at hall

/-- 順位を順に加えた表。 -/
def tally (lists : List (List (Hit α))) (k : Nat) : List (Hit α × α) :=
  lists.foldl (fun t hits => creditAll k t 0 hits) []

/-- **表の名前は、初めて現れた順に並ぶ。** -/
theorem firstSeen_tally (lists : List (List (Hit α))) (k : Nat) :
    FirstSeen (lists.flatten.map (·.chunk.id)) ((tally lists k).map (·.1.chunk.id)) := by
  have hfold : ∀ (lists : List (List (Hit α))) (table : List (Hit α × α)) {seen : List String},
      FirstSeen seen (table.map (·.1.chunk.id)) →
      FirstSeen (seen ++ lists.flatten.map (·.chunk.id))
        ((lists.foldl (fun t hits => creditAll k t 0 hits) table).map (·.1.chunk.id)) := by
    intro lists
    induction lists with
    | nil =>
      intro table seen h
      rwa [List.flatten_nil, List.map_nil, List.append_nil]
    | cons hits lists ih =>
      intro table seen h
      rw [List.flatten_cons, List.map_append, ← List.append_assoc]
      exact ih _ (h.creditAll k hits 0)
  exact hfold lists [] ⟨fun _ => Iff.rfl, .nil⟩

/-- 表にある、その名前の項目。 -/
def held? (id : String) (table : List (Hit α × α)) : Option (Hit α × α) :=
  table.find? (·.1.chunk.id == id)

/-- 点を加えた項目。なければ、そのまま項目になる。 -/
def credited (h : Hit α) (points : α) : Option (Hit α × α) → Hit α × α
  | none => (h, points)
  | some (g, total) => (g, total + points)

/-- **点を加えると、その名前の項目だけが変わる。** -/
theorem held?_credit (h : Hit α) (points : α) (id : String) : ∀ table : List (Hit α × α),
    held? id (credit h points table)
      = if h.chunk.id = id then some (credited h points (held? id table)) else held? id table
  | [] => by
    unfold credit held?
    by_cases hid : h.chunk.id = id
    · simp [hid, credited]
    · simp [hid]
  | (g, total) :: rest => by
    have ih := held?_credit h points id rest
    unfold held? at ih
    unfold credit held?
    by_cases hg : g.chunk.id = h.chunk.id
    · rw [if_pos hg]
      by_cases hid : h.chunk.id = id
      · simp [hg, hid, credited]
      · simp [hg, hid]
    · rw [if_neg hg, List.find?_cons, List.find?_cons, ih]
      by_cases hgid : g.chunk.id = id
      · have hid : h.chunk.id ≠ id := fun hid => hg (hgid.trans hid.symm)
        simp [hgid, hid]
      · rw [beq_eq_false_iff_ne.mpr hgid]

/-! ## 項目の中身 -/

theorem map_fst_held?_credit (h : Hit α) (points : α) (id : String) (table : List (Hit α × α)) :
    (held? id (credit h points table)).map Prod.fst
      = ((held? id table).map Prod.fst).or (if h.chunk.id = id then some h else none) := by
  rw [held?_credit]
  by_cases hid : h.chunk.id = id
  · rw [if_pos hid, if_pos hid]
    cases held? id table <;> rfl
  · rw [if_neg hid, if_neg hid, Option.or_none]

theorem map_fst_held?_creditAll (k : Nat) (id : String) : ∀ (hits : List (Hit α))
    (table : List (Hit α × α)) (rank : Nat),
    (held? id (creditAll k table rank hits)).map Prod.fst
      = ((held? id table).map Prod.fst).or (hits.find? (·.chunk.id == id))
  | [], table, _ => (Option.or_none).symm
  | h :: hits, table, rank => by
    rw [creditAll, map_fst_held?_creditAll k id hits, map_fst_held?_credit, Option.or_assoc]
    congr 1
    by_cases hid : h.chunk.id = id
    · simp [hid]
    · simp [hid]

/-- **項目の中身は、その名前を含む初めの順位のものである。** -/
theorem map_fst_held?_tally (lists : List (List (Hit α))) (k : Nat) (id : String) :
    (held? id (tally lists k)).map Prod.fst
      = lists.findSome? (·.find? (·.chunk.id == id)) := by
  have hfold : ∀ (lists : List (List (Hit α))) (table : List (Hit α × α)),
      (held? id (lists.foldl (fun t hits => creditAll k t 0 hits) table)).map Prod.fst
        = ((held? id table).map Prod.fst).or (lists.findSome? (·.find? (·.chunk.id == id))) := by
    intro lists
    induction lists with
    | nil => exact fun _ => (Option.or_none).symm
    | cons hits lists ih =>
      intro table
      rw [List.foldl_cons, ih, map_fst_held?_creditAll, Option.or_assoc, List.findSome?_cons]
      cases hits.find? (·.chunk.id == id) <;> rfl
  exact hfold lists []

/-- 表の項目は、その名前で見つかる。 -/
theorem held?_of_mem {lists : List (List (Hit α))} {k : Nat} {y : Hit α × α}
    (hy : y ∈ tally lists k) : held? y.1.chunk.id (tally lists k) = some y := by
  obtain ⟨e, he⟩ : ∃ e, held? y.1.chunk.id (tally lists k) = some e :=
    Option.isSome_iff_exists.mp (List.find?_isSome.mpr ⟨y, hy, beq_self_eq_true _⟩)
  have hid : e.1.chunk.id = y.1.chunk.id := by simpa using List.find?_some he
  rw [he, List.inj_on_of_nodup_map (firstSeen_tally lists k).nodup (List.mem_of_find?_eq_some he)
    hy hid]

/-! ## 統合した結果 -/

/-- 点を付けた表の項目。 -/
def pointed (p : Hit α × α) : Hit α := { p.1 with fusionScore := some p.2 }

theorem fuse_perm (lists : List (List (Hit α))) (k : Nat) :
    (fuse lists k).Perm ((tally lists k).map pointed) :=
  byScoreDesc_perm _ _

theorem ids_fuse_perm (lists : List (List (Hit α))) (k : Nat) :
    ((fuse lists k).map (·.chunk.id)).Perm ((tally lists k).map (·.1.chunk.id)) := by
  have h := (fuse_perm lists k).map (·.chunk.id)
  rwa [List.map_map] at h

/-- **統合した結果の、断片の名前に重なりはない。** -/
theorem nodup_fuse (lists : List (List (Hit α))) (k : Nat) :
    ((fuse lists k).map (·.chunk.id)).Nodup :=
  (ids_fuse_perm lists k).nodup_iff.mpr (firstSeen_tally lists k).nodup

/-- 統合した結果は、その名前を含む初めの順位のものに、表の点を付けたものである。 -/
theorem mem_fuse_entry {lists : List (List (Hit α))} {k : Nat} {h : Hit α}
    (hin : h ∈ fuse lists k) :
    ∃ g points, lists.findSome? (·.find? (·.chunk.id == h.chunk.id)) = some g
      ∧ held? h.chunk.id (tally lists k) = some (g, points)
      ∧ h = { g with fusionScore := some points } := by
  obtain ⟨⟨g, points⟩, hy, rfl⟩ := List.mem_map.mp ((fuse_perm lists k).mem_iff.mp hin)
  have hentry := held?_of_mem hy
  refine ⟨g, points, ?_, hentry, rfl⟩
  rw [← map_fst_held?_tally lists k]
  exact congrArg (Option.map Prod.fst) hentry

/-- **統合した結果は、どれかの順位にあったものに点を付けたものである。** -/
theorem mem_fuse {lists : List (List (Hit α))} {k : Nat} {h : Hit α} (hin : h ∈ fuse lists k) :
    ∃ g ∈ lists.flatten, ∃ points, h = { g with fusionScore := some points } := by
  obtain ⟨g, points, hfirst, -, heq⟩ := mem_fuse_entry hin
  obtain ⟨hits, hlist, hfind⟩ := List.exists_of_findSome?_eq_some hfirst
  exact ⟨g, List.mem_flatten.mpr ⟨hits, hlist, List.mem_of_find?_eq_some hfind⟩, points, heq⟩

/-- **点がどれも比べられるなら、統合した結果は点の大きい順に並ぶ。** -/
theorem descending_fuse [LawfulQuantity α] {lists : List (List (Hit α))} {k : Nat}
    (h : ∀ x ∈ fuse lists k, ∀ y ∈ x.fusionScore, isOrdered y = true) :
    Descending (·.fusionScore) (fuse lists k) := by
  refine .of_byScoreDesc (fun x hx => ?_) fun x hx => h x ((fuse_perm lists k).mem_iff.mpr hx)
  obtain ⟨p, -, rfl⟩ := List.mem_map.mp hx
  exact ⟨p.2, rfl⟩

/-! ## 正確な計算での点 -/

section

variable {lists : List (List (Hit Rat))} {k : Nat} {id : String}

/-- 順位 `hits` の中で、名前が `id` の断片の順位。0 から数える。 -/
def rank? (id : String) (hits : List (Hit Rat)) : Option Nat :=
  hits.findIdx? (·.chunk.id == id)

/-- 順位 `hits` が名前 `id` の断片に与える点。1 から数えた順位と `k` の和の逆数である。 -/
def share (k : Nat) (id : String) (hits : List (Hit Rat)) : Rat :=
  (rank? id hits).elim 0 fun r => 1 / ((k : Rat) + (r + 1 : Nat))

/-- 逆順位の和。 -/
def points (lists : List (List (Hit Rat))) (k : Nat) (id : String) : Rat :=
  (lists.map (share k id)).sum

/-- 表の中の、その名前の点。なければ零である。 -/
def total (id : String) (table : List (Hit Rat × Rat)) : Rat :=
  (held? id table).elim 0 Prod.snd

theorem contribution_exact (k r : Nat) : (contribution k r : Rat) = 1 / ((k : Rat) + (r + 1 : Nat)) := by
  show (1 : Rat) / ((k : Rat) + (r : Rat) + 1) = _
  push_cast
  ring

theorem total_credit (h : Hit Rat) (c : Rat) (id : String) (table : List (Hit Rat × Rat)) :
    total id (credit h c table) = total id table + if h.chunk.id = id then c else 0 := by
  unfold total
  rw [held?_credit]
  by_cases hid : h.chunk.id = id
  · rw [if_pos hid, if_pos hid]
    cases held? id table with
    | none => exact (zero_add c).symm
    | some e => rfl
  · rw [if_neg hid, if_neg hid, add_zero]

/-- 名前に重なりのない順位は、その中の順位の点だけを加える。`rank` は先頭の順位である。 -/
theorem total_creditAll (k : Nat) (id : String) : ∀ {hits : List (Hit Rat)}
    (table : List (Hit Rat × Rat)) (rank : Nat), (hits.map (·.chunk.id)).Nodup →
    total id (creditAll k table rank hits)
      = total id table + (rank? id hits).elim 0 fun r => contribution k (rank + r)
  | [], table, _, _ => (add_zero _).symm
  | h :: hits, table, rank, hnodup => by
    obtain ⟨hnot, hrest⟩ := List.nodup_cons.mp hnodup
    rw [creditAll, total_creditAll k id _ _ hrest, total_credit, add_assoc]
    congr 1
    unfold rank?
    rw [List.findIdx?_cons]
    by_cases hid : h.chunk.id = id
    · -- 後ろに同じ名前はないので、加わるのは先頭の点だけである
      have hnone : hits.findIdx? (·.chunk.id == id) = none := by
        rw [List.findIdx?_eq_none_iff]
        intro x hx
        rw [beq_eq_false_iff_ne]
        rintro rfl
        exact hnot (List.mem_map.mpr ⟨x, hx, hid.symm⟩)
      simp [hid, hnone]
    · cases hits.findIdx? (·.chunk.id == id) with
      | none => simp [hid]
      | some r => simp [hid, Nat.add_comm r 1, Nat.add_assoc]

/-- **表の点は、逆順位の和である。** -/
theorem total_tally (h : ∀ hits ∈ lists, (hits.map (·.chunk.id)).Nodup) (k : Nat) (id : String) :
    total id (tally lists k) = points lists k id := by
  have hfold : ∀ (lists : List (List (Hit Rat))) (table : List (Hit Rat × Rat)),
      (∀ hits ∈ lists, (hits.map (·.chunk.id)).Nodup) →
      total id (lists.foldl (fun t hits => creditAll k t 0 hits) table)
        = total id table + points lists k id := by
    intro lists
    induction lists with
    | nil => exact fun _ _ => (add_zero _).symm
    | cons hits lists ih =>
      intro table h
      obtain ⟨hone, hrest⟩ := List.forall_mem_cons.mp h
      have hshare : (rank? id hits).elim 0 (fun r => contribution k (0 + r)) = share k id hits := by
        simp only [Nat.zero_add, contribution_exact]
        rfl
      rw [List.foldl_cons, ih _ hrest, total_creditAll k id _ 0 hone, hshare, add_assoc]
      rfl
  rw [tally, hfold lists [] h]
  exact zero_add _

/-- **統合した点は、逆順位の和である。** -/
theorem fusionScore_eq (h : ∀ hits ∈ lists, (hits.map (·.chunk.id)).Nodup) {x : Hit Rat}
    (hx : x ∈ fuse lists k) : x.fusionScore = some (points lists k x.chunk.id) := by
  obtain ⟨g, c, -, hentry, heq⟩ := mem_fuse_entry hx
  have htotal := total_tally h k x.chunk.id
  unfold total at htotal
  rw [hentry] at htotal
  calc
    x.fusionScore = some c := congrArg Hit.fusionScore heq
    _ = some (points lists k x.chunk.id) := congrArg some htotal

/-- **統合した結果は点の大きい順に並び、同点は初めて現れた順に並ぶ。** -/
theorem inOrder_fuse (h : ∀ hits ∈ lists, (hits.map (·.chunk.id)).Nodup) (k : Nat) :
    (fuse lists k).Pairwise fun x y =>
      points lists k y.chunk.id < points lists k x.chunk.id
      ∨ points lists k x.chunk.id = points lists k y.chunk.id
        ∧ (lists.flatten.map (·.chunk.id)).idxOf x.chunk.id
          < (lists.flatten.map (·.chunk.id)).idxOf y.chunk.id := by
  have hfirst : ((tally lists k).map pointed).Pairwise fun x y : Hit Rat =>
      (lists.flatten.map (·.chunk.id)).idxOf x.chunk.id
        < (lists.flatten.map (·.chunk.id)).idxOf y.chunk.id := by
    have hids := List.pairwise_map.mp (firstSeen_tally lists k).ordered
    exact List.pairwise_map.mpr hids
  have horders : Orders (fun a b : Hit Rat => lt (b.fusionScore.getD (nat 0))
      (a.fusionScore.getD (nat 0))) ((tally lists k).map pointed) :=
    orders_score fun _ _ => isOrdered_exact _
  refine List.Pairwise.imp_of_mem ?_ (inOrder_stableSort horders hfirst)
  intro x y hx hy hxy
  obtain ⟨hle, htie⟩ := hxy
  simp only [fusionScore_eq h hx, fusionScore_eq h hy] at hle htie
  have hle : points lists k y.chunk.id ≤ points lists k x.chunk.id :=
    not_lt.mp (of_decide_eq_false hle)
  rcases hle.lt_or_eq with hlt | heq
  · exact Or.inl hlt
  · exact Or.inr ⟨heq.symm, htie (decide_eq_false (not_lt.mpr heq.ge))⟩

/-! ## どの順位でも劣らない断片 -/

/-- `out` で、名前 `b` の断片が名前 `a` の断片より前にあること。 -/
def Ahead (out : List (Hit Rat)) (b a : String) : Prop :=
  ∃ front x rest, out = front ++ x :: rest ∧ x.chunk.id = b ∧ a ∈ rest.map (·.chunk.id)

/-- `b` のある順位には必ず `a` もあって、`a` の順位が劣らないこと。 -/
def NoWorse (lists : List (List (Hit Rat))) (a b : String) : Prop :=
  ∀ hits ∈ lists, ∀ r, rank? b hits = some r → ∃ r' ≤ r, rank? a hits = some r'

/-- 順位 `hits` では `a` のほうが前にあるか、`a` だけがあること。 -/
def Better (hits : List (Hit Rat)) (a b : String) : Prop :=
  ∃ r', rank? a hits = some r' ∧ ∀ r, rank? b hits = some r → r' < r

theorem share_of_rank {hits : List (Hit Rat)} {r : Nat} (hr : rank? id hits = some r) :
    share k id hits = 1 / ((k : Rat) + (r + 1 : Nat)) := by
  unfold share
  rw [hr]
  rfl

theorem share_of_none {hits : List (Hit Rat)} (hr : rank? id hits = none) :
    share k id hits = 0 := by
  unfold share
  rw [hr]
  rfl

theorem rank_pos (k r : Nat) : (0 : Rat) < (k : Rat) + (r + 1 : Nat) := by positivity

theorem share_nonneg (k : Nat) (id : String) (hits : List (Hit Rat)) : 0 ≤ share k id hits := by
  cases hr : rank? id hits with
  | none => rw [share_of_none hr]
  | some r =>
    rw [share_of_rank hr]
    exact (one_div_pos.mpr (rank_pos k r)).le

/-- 順位が劣らなければ、与える点も劣らない。 -/
theorem share_le {a b : String} (h : NoWorse lists a b) {hits : List (Hit Rat)} (hin : hits ∈ lists) :
    share k b hits ≤ share k a hits := by
  cases hr : rank? b hits with
  | none =>
    rw [share_of_none hr]
    exact share_nonneg k a hits
  | some r =>
    obtain ⟨r', hle, hr'⟩ := h hits hin r hr
    rw [share_of_rank hr, share_of_rank hr']
    refine one_div_le_one_div_of_le (rank_pos k r') ?_
    gcongr

theorem share_lt {a b : String} {hits : List (Hit Rat)} (h : Better hits a b) :
    share k b hits < share k a hits := by
  obtain ⟨r', hr', hbetter⟩ := h
  rw [share_of_rank hr']
  cases hr : rank? b hits with
  | none =>
    rw [share_of_none hr]
    exact one_div_pos.mpr (rank_pos k r')
  | some r =>
    have hlt := hbetter r hr
    rw [share_of_rank hr]
    refine one_div_lt_one_div_of_lt (rank_pos k r') ?_
    gcongr

theorem points_le {a b : String} (h : NoWorse lists a b) (k : Nat) :
    points lists k b ≤ points lists k a :=
  List.sum_le_sum fun _ hin => share_le h hin

theorem points_lt {a b : String} (h : NoWorse lists a b) (k : Nat)
    (hbetter : ∃ hits ∈ lists, Better hits a b) : points lists k b < points lists k a := by
  obtain ⟨hits, hin, hone⟩ := hbetter
  exact List.sum_lt_sum _ _ (fun _ hin => share_le h hin) ⟨hits, hin, share_lt hone⟩

/-- 前にあるほうの点は劣らない。 -/
theorem points_le_of_ahead (h : ∀ hits ∈ lists, (hits.map (·.chunk.id)).Nodup) {a b : String}
    (hahead : Ahead (fuse lists k) b a) : points lists k a ≤ points lists k b := by
  obtain ⟨front, x, rest, hout, rfl, ha⟩ := hahead
  obtain ⟨y, hy, rfl⟩ := List.mem_map.mp ha
  have hpair := inOrder_fuse h k
  rw [hout] at hpair
  rcases (List.pairwise_cons.mp (List.pairwise_append.mp hpair).2.1).1 y hy with hlt | ⟨heq, -⟩
  · exact hlt.le
  · exact heq.ge

/--
**順位の統合は、逆順位の和で並べる。** どの順位の中でも、断片の名前に重なりはないとする。

* 結果には、どれかの順位にある名前の断片が、ちょうど一つずつある。
* その点は、1 から数えた順位と `k` の和の逆数を、それを含む順位について足したもの（`points`）であり、
  ほかの中身は、それを含む初めの順位のものである。
* 点の大きい順に並び、同点は初めて現れた順に並ぶ。
* `b` のある順位には必ず `a` もあって順位が劣らないなら、`b` が前に並ぶのは同点のときだけであり、
  `a` のほうが前の順位か `a` だけの順位が一つでもあれば、`b` は前に並ばない。
-/
theorem fuse_sums_reciprocal_ranks (h : ∀ hits ∈ lists, (hits.map (·.chunk.id)).Nodup) (k : Nat) :
    ((fuse lists k).map (·.chunk.id)).Nodup
    ∧ (∀ id, id ∈ (fuse lists k).map (·.chunk.id) ↔ ∃ hits ∈ lists, id ∈ hits.map (·.chunk.id))
    ∧ (∀ x ∈ fuse lists k, ∃ g, lists.findSome? (·.find? (·.chunk.id == x.chunk.id)) = some g
      ∧ x = { g with fusionScore := some (points lists k x.chunk.id) })
    ∧ ((fuse lists k).Pairwise fun x y =>
      points lists k y.chunk.id < points lists k x.chunk.id
      ∨ points lists k x.chunk.id = points lists k y.chunk.id
        ∧ (lists.flatten.map (·.chunk.id)).idxOf x.chunk.id
          < (lists.flatten.map (·.chunk.id)).idxOf y.chunk.id)
    ∧ ∀ a b, NoWorse lists a b → Ahead (fuse lists k) b a →
      points lists k a = points lists k b ∧ ∀ hits ∈ lists, ¬ Better hits a b := by
  refine ⟨nodup_fuse lists k, fun id => ?_, fun x hx => ?_, inOrder_fuse h k, fun a b hno hahead => ?_⟩
  · rw [(ids_fuse_perm lists k).mem_iff, (firstSeen_tally lists k).mem_iff]
    simp only [List.mem_map, List.mem_flatten]
    constructor
    · rintro ⟨x, ⟨hits, hin, hx⟩, hid⟩
      exact ⟨hits, hin, x, hx, hid⟩
    · rintro ⟨hits, hin, x, hx, hid⟩
      exact ⟨x, ⟨hits, hin, hx⟩, hid⟩
  · obtain ⟨g, c, hfirst, -, heq⟩ := mem_fuse_entry hx
    refine ⟨g, hfirst, ?_⟩
    have hscore := fusionScore_eq h hx
    rw [heq] at hscore ⊢
    rw [← hscore]
  · have hle := points_le_of_ahead h hahead
    refine ⟨le_antisymm hle (points_le hno k), fun hits hin hbetter => ?_⟩
    exact absurd hle (not_le.mpr (points_lt hno k ⟨hits, hin, hbetter⟩))

end

/-! ### 二つの順位の両方にある断片 -/

/-- パスと類似度だけを定めた断片。 -/
def sample (path : String) (similarity : Rat) : Hit Rat :=
  { chunk := .ofSpan path 1 3 "" .function "rust" 0, similarity }

/-- 近さの順位と語の順位。`a.rs` は両方にある。 -/
def nearAndWorded : List (List (Hit Rat)) :=
  [[sample "b.rs" (4 / 5), sample "a.rs" (9 / 10)], [sample "a.rs" (9 / 10), sample "c.rs" (1 / 10)]]

/-- 両方にある断片が初めに並ぶ。`c.rs` のある順位では `a.rs` が勝るので、`c.rs` が前に並ぶことはない。 -/
theorem fuse_sums_reciprocal_ranks_overlap :
    (∀ hits ∈ nearAndWorded, (hits.map (·.chunk.id)).Nodup)
    ∧ (fuse nearAndWorded 60).map (·.chunk.id) = ["a.rs:1-3", "b.rs:1-3", "c.rs:1-3"]
    ∧ (fuse nearAndWorded 60).map (·.fusionScore)
      = [some (1 / 62 + 1 / 61), some (1 / 61), some (1 / 62)]
    ∧ (∀ x ∈ fuse nearAndWorded 60,
      x.fusionScore = some (points nearAndWorded 60 x.chunk.id))
    ∧ ¬ Ahead (fuse nearAndWorded 60) "c.rs:1-3" "a.rs:1-3" := by
  have hnodup : ∀ hits ∈ nearAndWorded, (hits.map (·.chunk.id)).Nodup := by decide +kernel
  obtain ⟨-, -, hscores, -, hdominant⟩ := fuse_sums_reciprocal_ranks hnodup 60
  have hno : NoWorse nearAndWorded "a.rs:1-3" "c.rs:1-3" := by
    intro hits hin r hr
    rcases List.mem_cons.mp hin with rfl | hin
    · cases hr
    · obtain rfl := List.mem_singleton.mp hin
      exact ⟨0, Nat.zero_le r, by decide +kernel⟩
  have hbetter : Better [sample "a.rs" (9 / 10), sample "c.rs" (1 / 10)] "a.rs:1-3" "c.rs:1-3" := by
    refine ⟨0, by decide +kernel, fun r hr => ?_⟩
    have hone : rank? "c.rs:1-3" [sample "a.rs" (9 / 10), sample "c.rs" (1 / 10)] = some 1 := by
      decide +kernel
    rw [hone] at hr
    cases hr
    decide
  refine ⟨hnodup, by decide +kernel, by decide +kernel, fun x hx => ?_, fun hahead => ?_⟩
  · obtain ⟨g, -, heq⟩ := hscores x hx
    exact congrArg Hit.fusionScore heq
  · exact (hdominant _ _ hno hahead).2 _ (List.mem_cons_of_mem _ List.mem_cons_self) hbetter

end CodeSearch.Rank
