import CodeSearch.Proofs.Chunking.Independence
import Mathlib.Data.List.Nodup

/-!
# 木を歩いて見つける切れ目

節は、根からの子の番号の列（番地）で区別する。同じ形の節が木の中にいくつあってもよい。

見つける切れ目は、番地についての関係 `Scope.Recorded` で述べる。最上位の節は透明な節だけを通って届く節、
内側の節は、包みなら運ばれている宣言から、不可分な節を通らずに三段まで降りて届く節である。
歩いて見つける切れ目の列が、この関係をみたす番地と切れ目を番地ごとに一度ずつ並べたものであること
（`Enumerates`）を、歩く関数の再帰に沿って示す。

* `Enumerates.cons` — 並んだ節の列は、先頭の節の列と、番号を一つずらした残りの列をつないだものである
* `enumerates_nested` — 内側を歩くと、不可分な節を通らずに届く節を一度ずつ見る
* `exists_bodyAt`、`BodyAt.unique` — 内側を歩く節は、ただ一つの番地にある
* `gather_run` — 見つけたものを集めた列は、見つけた順の切れ目に、スクリプトの中の列を挟んだものである
* `walk_exact` — 木を歩くと、記録すべき切れ目をちょうど一度ずつ見つける
-/

namespace CodeSearch

open Registry

/-! ## 番地 -/

namespace Node

/-- 子の番号の列で指した節。 -/
def at? : Node → List Nat → Option Node
  | n, [] => some n
  | n, i :: path => (n.children[i]?).bind (·.at? path)

@[simp] theorem at?_nil (n : Node) : n.at? [] = some n := by
  rw [at?]

theorem at?_cons {n c : Node} {i : Nat} (h : n.children[i]? = some c) (path : List Nat) :
    n.at? (i :: path) = c.at? path := by
  rw [at?, h, Option.bind_some]

/-- 番地をつなぐことは、続けて降りることである。 -/
theorem at?_append {n c : Node} : ∀ {path : List Nat}, n.at? path = some c →
    ∀ rest, n.at? (path ++ rest) = c.at? rest
  | [], h, rest => by
    rw [at?_nil, Option.some.injEq] at h
    rw [h, List.nil_append]
  | i :: path, h, rest => by
    rw [at?] at h
    obtain ⟨d, hd, hpath⟩ := Option.bind_eq_some_iff.mp h
    rw [List.cons_append, at?_cons hd, at?_append hpath]

theorem sizeOf_child_lt {n c : Node} (h : c ∈ n.children) : sizeOf c < sizeOf n := by
  cases n with
  | mk k a b cs fs =>
    have := List.sizeOf_lt_of_mem h
    simp only [children] at this
    simp only [mk.sizeOf_spec]
    omega

end Node

/-! ## 番地ごとに一度ずつ並べること -/

/-- `ps` が、`E` をみたす番地と切れ目を、番地ごとに一度ずつ並べたものであること。 -/
def Enumerates (ps : List Breakpoint) (E : List Nat → Breakpoint → Prop) : Prop :=
  ∃ marks : List (List Nat × Breakpoint), marks.map Prod.snd = ps ∧ (marks.map Prod.fst).Nodup
    ∧ ∀ path p, (path, p) ∈ marks ↔ E path p

namespace Enumerates

variable {ps qs : List Breakpoint} {E F : List Nat → Breakpoint → Prop}

theorem congr (h : Enumerates ps E) (hEF : ∀ path p, E path p ↔ F path p) : Enumerates ps F := by
  obtain ⟨marks, hps, hnodup, hmem⟩ := h
  exact ⟨marks, hps, hnodup, fun path p => (hmem path p).trans (hEF path p)⟩

/-- 一つの番地に二つの切れ目はない。 -/
theorem unique (h : Enumerates ps E) {path : List Nat} {p q : Breakpoint} (hp : E path p)
    (hq : E path q) : p = q := by
  obtain ⟨marks, -, hnodup, hmem⟩ := h
  have hpair := List.inj_on_of_nodup_map hnodup ((hmem path p).mpr hp) ((hmem path q).mpr hq) rfl
  exact congrArg Prod.snd hpair

/-- 並んだ切れ目のどれにも番地がある。 -/
theorem exists_of_mem (h : Enumerates ps E) {p : Breakpoint} (hp : p ∈ ps) : ∃ path, E path p := by
  obtain ⟨marks, rfl, -, hmem⟩ := h
  obtain ⟨⟨path, q⟩, hq, rfl⟩ := List.mem_map.mp hp
  exact ⟨path, (hmem path q).mp hq⟩

theorem nil (h : ∀ path p, ¬E path p) : Enumerates [] E :=
  ⟨[], rfl, List.nodup_nil, fun path p => by simp [h path p]⟩

/-- 節そのものの切れ目。番地は空である。 -/
theorem toList (o : Option Breakpoint) :
    Enumerates o.toList fun path p => path = [] ∧ o = some p := by
  cases o with
  | none => exact nil fun _ _ h => by cases h.2
  | some q =>
    refine ⟨[([], q)], rfl, List.nodup_singleton _, fun path p => ?_⟩
    simp [eq_comm]

theorem append (h : Enumerates ps E) (h' : Enumerates qs F)
    (hdisjoint : ∀ path p q, E path p → ¬F path q) :
    Enumerates (ps ++ qs) fun path p => E path p ∨ F path p := by
  obtain ⟨marks, rfl, hnodup, hmem⟩ := h
  obtain ⟨marks', rfl, hnodup', hmem'⟩ := h'
  refine ⟨marks ++ marks', List.map_append, ?_, fun path p => ?_⟩
  · rw [List.map_append]
    refine List.Nodup.append hnodup hnodup' fun path hpath hpath' => ?_
    obtain ⟨⟨_, p⟩, hp, rfl⟩ := List.mem_map.mp hpath
    obtain ⟨⟨path, q⟩, hq, heq⟩ := List.mem_map.mp hpath'
    cases heq
    exact hdisjoint _ p q ((hmem _ _).mp hp) ((hmem' _ _).mp hq)
  · rw [List.mem_append, hmem, hmem']

/-- 番地を一対一に置き換える。 -/
theorem relocate (h : Enumerates ps E) {f : List Nat → List Nat} (hf : f.Injective) :
    Enumerates ps fun path p => ∃ rest, path = f rest ∧ E rest p := by
  obtain ⟨marks, rfl, hnodup, hmem⟩ := h
  refine ⟨marks.map (Prod.map f id), ?_, ?_, fun path p => ?_⟩
  · rw [List.map_map]
    rfl
  · have hfst : (marks.map (Prod.map f id)).map Prod.fst = (marks.map Prod.fst).map f := by
      rw [List.map_map, List.map_map]
      rfl
    rw [hfst]
    exact hnodup.map hf
  · rw [List.mem_map]
    constructor
    · rintro ⟨⟨rest, q⟩, hq, heq⟩
      cases heq
      exact ⟨rest, rfl, (hmem _ _).mp hq⟩
    · rintro ⟨rest, rfl, hE⟩
      exact ⟨(rest, p), (hmem _ _).mpr hE, rfl⟩

/-- 先頭の子の列と、番号を一つずらした残りの子の列をつなぐ。 -/
theorem cons {E : Nat → List Nat → Breakpoint → Prop} (h : Enumerates ps (E 0))
    (h' : Enumerates qs fun path p => ∃ i rest, path = i :: rest ∧ E (i + 1) rest p) :
    Enumerates (ps ++ qs) fun path p => ∃ i rest, path = i :: rest ∧ E i rest p := by
  have hfirst := h.relocate (List.cons_injective (a := 0))
  have hrest := h'.relocate (f := List.modifyHead (· + 1)) (by
    rintro (_ | ⟨i, xs⟩) (_ | ⟨j, ys⟩) hxy <;> simp_all)
  refine (hfirst.append hrest ?_).congr fun path p => ?_
  · rintro _ p q ⟨rest, rfl, -⟩ ⟨_, hpath, i, rest', rfl, -⟩
    simp at hpath
  · constructor
    · rintro (⟨rest, rfl, hE⟩ | ⟨_, rfl, i, rest, rfl, hE⟩)
      · exact ⟨0, rest, rfl, hE⟩
      · exact ⟨i + 1, rest, rfl, hE⟩
    · rintro ⟨i, rest, rfl, hE⟩
      cases i with
      | zero => exact Or.inl ⟨rest, rfl, hE⟩
      | succ i => exact Or.inr ⟨i :: rest, rfl, i, rest, rfl, hE⟩

/-- 子の一つ一つの列をつなぐ。 -/
theorem flatMap {f : Node → List Breakpoint} {E : Node → List Nat → Breakpoint → Prop} :
    ∀ cs : List Node, (∀ c ∈ cs, Enumerates (f c) (E c)) →
    Enumerates (cs.flatMap f)
      fun path p => ∃ i rest, path = i :: rest ∧ ∃ c, cs[i]? = some c ∧ E c rest p
  | [], _ => nil fun _ _ h => by
    obtain ⟨i, rest, -, c, hc, -⟩ := h
    cases hc
  | c :: cs, h => by
    obtain ⟨hone, hrest⟩ := List.forall_mem_cons.mp h
    refine cons (E := fun i rest p => ∃ d, (c :: cs)[i]? = some d ∧ E d rest p) ?_ ?_
    · refine hone.congr fun path p => ?_
      simp
    · exact flatMap cs hrest

end Enumerates

namespace Scope

variable {s : Scope} {n b c d : Node} {i : Nat} {path q r : List Nat} {before : List Node}

/-! ## 記録すべき切れ目 -/

/-- 子を親と同じ深さにあるとみなす節か。 -/
def isTransparent (s : Scope) (n : Node) : Bool := s.table.transparent.contains n.kind

/-- 親から透明な節だけを通って届く、透明でない節。前に並ぶ兄弟を近い順に添える。 -/
inductive TopLevel (s : Scope) : (parent : Node) → List Nat → (before : List Node) → Node →
    Prop where
  | child {parent n : Node} {i : Nat} : parent.children[i]? = some n → s.isTransparent n = false →
      TopLevel s parent [i] (parent.children.take i).reverse n
  | through {parent c n : Node} {i : Nat} {path : List Nat} {before : List Node} :
      parent.children[i]? = some c → s.isTransparent c = true → TopLevel s c path before n →
      TopLevel s parent (i :: path) before n

/-- 節から下の節までの間に、両端を含めて不可分な節がないこと。 -/
inductive Open (s : Scope) : Node → List Nat → Node → Prop where
  | here {n : Node} : s.isAtomic n = false → Open s n [] n
  | child {n c d : Node} {i : Nat} {path : List Nat} : s.isAtomic n = false →
      n.children[i]? = some c → Open s c path d → Open s n (i :: path) d

/-- 宣言でもなく、宣言を運ぶ包みでもない節。 -/
def Bare (s : Scope) (n : Node) : Prop :=
  s.declaredKind n = none ∧ (s.isWrapper n = true → s.carried n = none)

/-- 包みが運ぶ宣言。包みの中の包みも通って届く、最初の宣言である。 -/
inductive Carries (s : Scope) : Node → List Nat → Node → Prop where
  | declared {n d : Node} {i : Nat} : n.children[i]? = some d →
      (∀ b ∈ n.children.take i, s.Bare b) → (s.declaredKind d).isSome → Carries s n [i] d
  | wrapped {n c d : Node} {i : Nat} {path : List Nat} : n.children[i]? = some c →
      (∀ b ∈ n.children.take i, s.Bare b) → s.declaredKind c = none → s.isWrapper c = true →
      Carries s c path d → Carries s n (i :: path) d

/-- 内側を歩く節。包みなら運んでいる宣言であり、運んでいなければ節そのものである。 -/
inductive BodyAt (s : Scope) (n : Node) : List Nat → Node → Prop where
  | self : (s.isWrapper n = true → s.carried n = none) → BodyAt s n [] n
  | carried {path : List Nat} {d : Node} : s.isWrapper n = true → s.Carries n path d →
      BodyAt s n path d

/-- 最上位の節 `n` が記録する切れ目。番地は `n` から数える。 -/
inductive Marks (s : Scope) (before : List Node) (n : Node) : List Nat → Breakpoint → Prop where
  /-- 節そのものの切れ目。深さは 0 である。 -/
  | own {t : ChunkType} : s.topKind n = some t →
      Marks s before n [] (s.pointAt (s.leadingRow n before) t 0)
  /-- 内側の節の切れ目。深さは、内側を歩く節からの段の数である。 -/
  | inner {q r : List Nat} {b c d : Node} {i : Nat} {t : ChunkType} : s.isAtomic n = false →
      s.BodyAt n q b → s.isAtomic b = false → b.children[i]? = some c → s.Open c r d →
      r.length + 1 ≤ maxDepth → s.nestedKind d = some t →
      Marks s before n (q ++ i :: r) (s.pointAt (s.source.firstRow d) t (r.length + 1))

/-- 根の下で記録すべき切れ目。 -/
def Recorded (s : Scope) (root : Node) (path : List Nat) (p : Breakpoint) : Prop :=
  ∃ a r before n, path = a ++ r ∧ s.TopLevel root a before n ∧ s.Marks before n r p

/-! ### 番地の指す節 -/

theorem TopLevel.at? (h : s.TopLevel b path before n) : b.at? path = some n := by
  induction h with
  | child hi _ => rw [Node.at?_cons hi, Node.at?_nil]
  | through hi _ _ ih => rw [Node.at?_cons hi, ih]

theorem Open.at? (h : s.Open n path d) : n.at? path = some d := by
  induction h with
  | here _ => rw [Node.at?_nil]
  | child _ hi _ ih => rw [Node.at?_cons hi, ih]

theorem Carries.at? (h : s.Carries n path d) : n.at? path = some d := by
  induction h with
  | declared hi _ _ => rw [Node.at?_cons hi, Node.at?_nil]
  | wrapped hi _ _ _ _ ih => rw [Node.at?_cons hi, ih]

theorem BodyAt.at? (h : s.BodyAt n path b) : n.at? path = some b := by
  cases h with
  | self _ => rw [Node.at?_nil]
  | carried _ h => exact h.at?

theorem BodyAt.inner_at? (hb : s.BodyAt n q b) (hc : b.children[i]? = some c)
    (hopen : s.Open c r d) : n.at? (q ++ i :: r) = some d := by
  rw [Node.at?_append hb.at?, Node.at?_cons hc, hopen.at?]

/-! ## 内側を歩くこと -/

/-- **内側を歩くと、不可分な節を通らずに届く節を一度ずつ見る。** -/
theorem enumerates_nested (s : Scope) : ∀ (levels depth : Nat) (n : Node),
    Enumerates (s.nested levels depth n) fun path p => ∃ d t, s.Open n path d
      ∧ path.length < levels ∧ s.nestedKind d = some t
      ∧ p = s.pointAt (s.source.firstRow d) t (depth + path.length)
  | 0, depth, n => .nil fun path p h => by
    obtain ⟨d, t, -, hlt, -⟩ := h
    exact Nat.not_lt_zero _ hlt
  | levels + 1, depth, n => by
    unfold nested
    cases hatomic : s.isAtomic n with
    | true =>
      refine .nil fun path p h => ?_
      obtain ⟨d, t, hopen, -⟩ := h
      cases hopen with
      | here hn => rw [hatomic] at hn; cases hn
      | child hn => rw [hatomic] at hn; cases hn
    | false =>
      have hown := Enumerates.toList
        ((s.nestedKind n).map fun t => s.pointAt (s.source.firstRow n) t depth)
      have hinner := Enumerates.flatMap n.children fun c _ =>
        enumerates_nested s levels (depth + 1) c
      rw [if_neg (by decide)]
      refine (hown.append hinner ?_).congr fun path p => ⟨?_, ?_⟩
      · rintro _ p q ⟨rfl, -⟩ ⟨i, rest, hpath, -⟩
        cases hpath
      · rintro (⟨rfl, hp⟩ | ⟨i, rest, rfl, c, hc, d, t, hopen, hlt, hkind, rfl⟩)
        · obtain ⟨t, ht, rfl⟩ := Option.map_eq_some_iff.mp hp
          exact ⟨n, t, .here hatomic, Nat.succ_pos _, ht, rfl⟩
        · refine ⟨d, t, .child hatomic hc hopen, Nat.succ_lt_succ hlt, hkind, ?_⟩
          rw [List.length_cons, Nat.add_right_comm, Nat.add_assoc]
      · rintro ⟨d, t, hopen, hlt, hkind, rfl⟩
        cases hopen with
        | here _ => exact Or.inl ⟨rfl, by rw [hkind]; rfl⟩
        | @child _ c _ i rest _ hc hopen =>
          refine Or.inr ⟨i, rest, rfl, c, hc, d, t, hopen, Nat.lt_of_succ_lt_succ hlt, hkind, ?_⟩
          rw [List.length_cons, Nat.add_right_comm, Nat.add_assoc]

/-! ## 内側を歩く節 -/

/-- 運ばれる宣言は、それより前に宣言のない子の、それ自身か、その運ぶ宣言である。 -/
theorem carriedAmong_eq_some : ∀ {cs : List Node}, s.carriedAmong cs = some d →
    ∃ i c, cs[i]? = some c ∧ (∀ b ∈ cs.take i, s.Bare b)
      ∧ (((s.declaredKind c).isSome ∧ c = d)
        ∨ (s.declaredKind c = none ∧ s.isWrapper c = true ∧ s.carried c = some d))
  | [], h => by
    rw [carriedAmong] at h
    cases h
  | c :: rest, h => by
    rw [carriedAmong] at h
    by_cases hdeclared : (s.declaredKind c).isSome = true
    · rw [if_pos hdeclared, Option.some_or, Option.some.injEq] at h
      exact ⟨0, c, rfl, nofun, Or.inl ⟨hdeclared, h⟩⟩
    · have hnone : s.declaredKind c = none := by simpa using hdeclared
      rw [if_neg hdeclared] at h
      cases hcarried : (if s.isWrapper c = true then s.carried c else none) with
      | some e =>
        have hwrapper : s.isWrapper c = true := by
          by_contra hnot
          rw [if_neg hnot] at hcarried
          cases hcarried
        rw [hcarried, Option.some_or] at h
        rw [if_pos hwrapper, h] at hcarried
        exact ⟨0, c, rfl, nofun, Or.inr ⟨hnone, hwrapper, hcarried⟩⟩
      | none =>
        rw [hcarried, Option.none_or] at h
        obtain ⟨i, c', hi, hbefore, hcase⟩ := carriedAmong_eq_some h
        refine ⟨i + 1, c', hi, List.forall_mem_cons.mpr ⟨⟨hnone, fun hwrapper => ?_⟩, hbefore⟩,
          hcase⟩
        rwa [if_pos hwrapper] at hcarried

theorem exists_carries (n : Node) (h : s.carried n = some d) : ∃ path, s.Carries n path d := by
  have hamong : s.carriedAmong n.children = some d := by
    cases n with
    | mk k a b cs fs => rwa [carried] at h
  obtain ⟨i, c, hi, hbefore, ⟨hdeclared, rfl⟩ | ⟨hnone, hwrapper, hcarried⟩⟩ :=
    carriedAmong_eq_some hamong
  · exact ⟨[i], .declared hi hbefore hdeclared⟩
  · have hsmaller := Node.sizeOf_child_lt (List.mem_of_getElem? hi)
    obtain ⟨path, hpath⟩ := exists_carries c hcarried
    exact ⟨i :: path, .wrapped hi hbefore hnone hwrapper hpath⟩
termination_by sizeOf n

theorem carriedAmong_of_bare : ∀ {cs : List Node} {i : Nat}, cs[i]? = some c →
    (∀ b ∈ cs.take i, s.Bare b) →
    (((s.declaredKind c).isSome ∧ c = d)
      ∨ (s.declaredKind c = none ∧ s.isWrapper c = true ∧ s.carried c = some d)) →
    s.carriedAmong cs = some d
  | [], _, hi, _, _ => by cases hi
  | c' :: rest, 0, hi, _, hcase => by
    have hc : c' = c := Option.some.inj hi
    rw [hc, carriedAmong]
    rcases hcase with ⟨hdeclared, rfl⟩ | ⟨hnone, hwrapper, hcarried⟩
    · rw [if_pos hdeclared, Option.some_or]
    · rw [hnone, if_neg (by decide), if_pos hwrapper, hcarried, Option.some_or]
  | b :: rest, i + 1, hi, hbefore, hcase => by
    obtain ⟨⟨hnone, hwrapped⟩, hrest⟩ := List.forall_mem_cons.mp hbefore
    have hskip : (if s.isWrapper b = true then s.carried b else none) = none := by
      by_cases hwrapper : s.isWrapper b = true
      · rw [if_pos hwrapper, hwrapped hwrapper]
      · rw [if_neg hwrapper]
    rw [carriedAmong, hnone, if_neg (by decide), hskip, Option.none_or]
    exact carriedAmong_of_bare hi hrest hcase

theorem Carries.carried_eq (h : s.Carries n path d) : s.carried n = some d := by
  have hchildren : ∀ n : Node, s.carried n = s.carriedAmong n.children := by
    rintro ⟨k, a, b, cs, fs⟩
    rw [carried]
    rfl
  induction h with
  | declared hi hbefore hdeclared =>
    rw [hchildren]
    exact carriedAmong_of_bare hi hbefore (Or.inl ⟨hdeclared, rfl⟩)
  | wrapped hi hbefore hnone hwrapper _ ih =>
    rw [hchildren]
    exact carriedAmong_of_bare hi hbefore (Or.inr ⟨hnone, hwrapper, ih⟩)

/-- 前がどれも宣言を運ばず、自分は運ぶ子は、一つしかない。 -/
theorem index_unique {cs : List Node} {c c' : Node} {i j : Nat} (hi : cs[i]? = some c)
    (hj : cs[j]? = some c') (hbefore : ∀ b ∈ cs.take i, s.Bare b)
    (hbefore' : ∀ b ∈ cs.take j, s.Bare b) (hc : ¬s.Bare c) (hc' : ¬s.Bare c') : i = j := by
  have hmem : ∀ {i j : Nat} {c : Node}, cs[i]? = some c → i < j → c ∈ cs.take j := by
    intro i j c hi hlt
    refine List.mem_of_getElem? (i := i) ?_
    rw [List.getElem?_take_of_lt hlt, hi]
  rcases Nat.lt_trichotomy i j with hlt | heq | hgt
  · exact absurd (hbefore' c (hmem hi hlt)) hc
  · exact heq
  · exact absurd (hbefore c' (hmem hj hgt)) hc'

theorem not_bare_of_declared (h : (s.declaredKind n).isSome) : ¬s.Bare n := by
  rintro ⟨hnone, -⟩
  rw [hnone] at h
  cases h

theorem Carries.not_bare (hwrapper : s.isWrapper n = true) (h : s.Carries n path d) :
    ¬s.Bare n := by
  rintro ⟨-, hnone⟩
  rw [h.carried_eq] at hnone
  cases hnone hwrapper

theorem Carries.unique (h : s.Carries n path d) : ∀ {q : List Nat} {e : Node},
    s.Carries n q e → path = q ∧ d = e := by
  induction h with
  | @declared n d i hi hbefore hdeclared =>
    intro q e h'
    cases h' with
    | @declared _ e j hj hbefore' hdeclared' =>
      obtain rfl := index_unique hi hj hbefore hbefore' (not_bare_of_declared hdeclared)
        (not_bare_of_declared hdeclared')
      exact ⟨rfl, Option.some.inj (hi.symm.trans hj)⟩
    | @wrapped _ c e j q hj hbefore' hnone hwrapper hcarries =>
      obtain rfl := index_unique hi hj hbefore hbefore' (not_bare_of_declared hdeclared)
        (hcarries.not_bare hwrapper)
      -- 同じ子が、宣言であり、かつ宣言でない
      rw [Option.some.inj (hi.symm.trans hj), hnone] at hdeclared
      cases hdeclared
  | @wrapped n c d i path hi hbefore hnone hwrapper hcarries ih =>
    intro q e h'
    cases h' with
    | @declared _ e j hj hbefore' hdeclared' =>
      obtain rfl := index_unique hi hj hbefore hbefore' (hcarries.not_bare hwrapper)
        (not_bare_of_declared hdeclared')
      rw [← Option.some.inj (hi.symm.trans hj), hnone] at hdeclared'
      cases hdeclared'
    | @wrapped _ c' e j q hj hbefore' hnone' hwrapper' hcarries' =>
      obtain rfl := index_unique hi hj hbefore hbefore' (hcarries.not_bare hwrapper)
        (hcarries'.not_bare hwrapper')
      obtain rfl := Option.some.inj (hi.symm.trans hj)
      obtain ⟨rfl, rfl⟩ := ih hcarries'
      exact ⟨rfl, rfl⟩

/-- **内側を歩く節は、ある番地にある。** -/
theorem exists_bodyAt (s : Scope) (n : Node) : ∃ path, s.BodyAt n path (s.body n) := by
  unfold body
  by_cases hwrapper : s.isWrapper n = true
  · rw [if_pos hwrapper]
    cases hcarried : s.carried n with
    | none => exact ⟨[], .self fun _ => hcarried⟩
    | some d =>
      obtain ⟨path, hpath⟩ := exists_carries n hcarried
      exact ⟨path, .carried hwrapper hpath⟩
  · rw [if_neg hwrapper]
    exact ⟨[], .self fun h => absurd h hwrapper⟩

/-- **内側を歩く節の番地は、一つしかない。** -/
theorem BodyAt.unique (h : s.BodyAt n path b) (h' : s.BodyAt n q c) : path = q ∧ b = c := by
  cases h with
  | self hnone =>
    cases h' with
    | self _ => exact ⟨rfl, rfl⟩
    | carried hwrapper hcarries =>
      rw [hcarries.carried_eq] at hnone
      cases hnone hwrapper
  | carried hwrapper hcarries =>
    cases h' with
    | self hnone =>
      rw [hcarries.carried_eq] at hnone
      cases hnone hwrapper
    | carried _ hcarries' => exact hcarries.unique hcarries'

/-! ## 最上位を歩くこと -/

/-- 最上位の節を歩いて見つける切れ目。 -/
theorem points_topPoints (s : Scope) (before : List Node) (n : Node) :
    (s.topPoints before n).filterMap Found.point?
      = ((s.topKind n).map fun t => s.pointAt (s.leadingRow n before) t 0).toList
        ++ if s.isAtomic n || s.isAtomic (s.body n) then []
          else (s.body n).children.flatMap (s.nested maxDepth 1) := by
  unfold topPoints
  rw [List.filterMap_append]
  congr 1
  · cases s.topKind n with
    | none => rfl
    | some t =>
      by_cases hscript : (n.kind == "script_element") = true <;> simp [hscript, Found.point?]
  · split
    · rfl
    · rw [List.filterMap_map]
      exact List.filterMap_some

/-- **最上位の節を歩くと、その節の切れ目をちょうど一度ずつ見つける。** -/
theorem enumerates_topPoints (s : Scope) (before : List Node) (n : Node) :
    Enumerates ((s.topPoints before n).filterMap Found.point?) (s.Marks before n) := by
  rw [points_topPoints]
  obtain ⟨q, hbody⟩ := s.exists_bodyAt n
  have hown := Enumerates.toList ((s.topKind n).map fun t => s.pointAt (s.leadingRow n before) t 0)
  by_cases hatomic : (s.isAtomic n || s.isAtomic (s.body n)) = true
  · rw [if_pos hatomic, List.append_nil]
    refine hown.congr fun path p => ⟨?_, ?_⟩
    · rintro ⟨rfl, hp⟩
      obtain ⟨t, ht, rfl⟩ := Option.map_eq_some_iff.mp hp
      exact .own ht
    · intro h
      cases h with
      | own ht => exact ⟨rfl, by rw [ht]; rfl⟩
      | inner hn hb hbn =>
        -- 不可分な節の内側は記録しない
        obtain ⟨-, rfl⟩ := hb.unique hbody
        rw [hn, hbn] at hatomic
        cases hatomic
  · rw [if_neg hatomic]
    obtain ⟨hn, hb⟩ : s.isAtomic n = false ∧ s.isAtomic (s.body n) = false := by
      simpa using hatomic
    have hinner := (Enumerates.flatMap (s.body n).children fun c _ =>
      s.enumerates_nested maxDepth 1 c).relocate (List.append_right_injective q)
    refine (hown.append hinner ?_).congr fun path p => ⟨?_, ?_⟩
    · rintro _ p p' ⟨rfl, -⟩ ⟨_, hpath, i, rest, rfl, -⟩
      simp at hpath
    · rintro (⟨rfl, hp⟩ | ⟨_, rfl, i, r, rfl, c, hc, d, t, hopen, hlt, hkind, rfl⟩)
      · obtain ⟨t, ht, rfl⟩ := Option.map_eq_some_iff.mp hp
        exact .own ht
      · rw [Nat.add_comm 1]
        exact .inner hn hbody hb hc hopen hlt hkind
    · intro h
      cases h with
      | own ht => exact Or.inl ⟨rfl, by rw [ht]; rfl⟩
      | @inner q' r b c d i t _ hb' _ hc hopen hlt hkind =>
        obtain ⟨rfl, rfl⟩ := hb'.unique hbody
        refine Or.inr ⟨_, rfl, i, r, rfl, c, hc, d, t, hopen, hlt, hkind, ?_⟩
        rw [Nat.add_comm 1]

/-- 節の下で見つける切れ目。透明な節なら、子を最上位とみなす。 -/
def NodeMarks (s : Scope) (before : List Node) (n : Node) (path : List Nat) (p : Breakpoint) :
    Prop :=
  (s.isTransparent n = true ∧ s.Recorded n path p)
    ∨ (s.isTransparent n = false ∧ s.Marks before n path p)

/-- 根の下の切れ目は、子の下の切れ目である。 -/
theorem recorded_iff {root : Node} {path : List Nat} {p : Breakpoint} :
    s.Recorded root path p ↔ ∃ i rest, path = i :: rest ∧ ∃ c, root.children[i]? = some c
      ∧ s.NodeMarks ((root.children.take i).reverse ++ []) c rest p := by
  constructor
  · rintro ⟨a, r, before, n, rfl, htop, hmarks⟩
    cases htop with
    | @child _ n i hi hn =>
      rw [← List.append_nil (root.children.take i).reverse] at hmarks
      exact ⟨i, r, rfl, n, hi, Or.inr ⟨hn, hmarks⟩⟩
    | @through _ c n i a before hi hc htop =>
      exact ⟨i, a ++ r, rfl, c, hi, Or.inl ⟨hc, a, r, before, n, rfl, htop, hmarks⟩⟩
  · rintro ⟨i, rest, rfl, c, hi, ⟨hc, a, r, before, n, rfl, htop, hmarks⟩ | ⟨hc, hmarks⟩⟩
    · exact ⟨i :: a, r, before, n, rfl, .through hi hc htop, hmarks⟩
    · rw [List.append_nil] at hmarks
      exact ⟨[i], rest, _, c, rfl, .child hi hc, hmarks⟩

mutual

theorem enumerates_topNode (s : Scope) (before : List Node) :
    ∀ n : Node, Enumerates ((s.topNode before n).filterMap Found.point?) (s.NodeMarks before n)
  | .mk k a b cs fs => by
    have hkind : s.isTransparent (.mk k a b cs fs) = s.table.transparent.contains k := rfl
    unfold topNode
    by_cases htransparent : s.table.transparent.contains k = true
    · rw [if_pos htransparent]
      refine (enumerates_topAll s [] cs).congr fun path p => ⟨fun h => ?_, ?_⟩
      · exact Or.inl ⟨htransparent, recorded_iff.mpr h⟩
      · rintro (⟨-, hrecorded⟩ | ⟨hnot, -⟩)
        · exact recorded_iff.mp hrecorded
        · rw [hkind, htransparent] at hnot
          cases hnot
    · rw [if_neg htransparent]
      refine (s.enumerates_topPoints before (.mk k a b cs fs)).congr fun path p =>
        ⟨fun h => Or.inr ⟨Bool.eq_false_iff.mpr htransparent, h⟩, ?_⟩
      rintro (⟨hyes, -⟩ | ⟨-, hmarks⟩)
      · exact absurd hyes htransparent
      · exact hmarks

/-- **並んだ節を歩くと、一つ一つの節の下の切れ目を、ちょうど一度ずつ見つける。** -/
theorem enumerates_topAll (s : Scope) (before : List Node) :
    ∀ cs : List Node, Enumerates ((s.topAll before cs).filterMap Found.point?)
      fun path p => ∃ i rest, path = i :: rest ∧ ∃ c, cs[i]? = some c
        ∧ s.NodeMarks ((cs.take i).reverse ++ before) c rest p
  | [] => by
    unfold topAll
    refine .nil fun path p h => ?_
    obtain ⟨i, rest, -, c, hc, -⟩ := h
    cases hc
  | c :: cs => by
    unfold topAll
    rw [List.filterMap_append]
    refine .cons (E := fun i rest p => ∃ d, (c :: cs)[i]? = some d
      ∧ s.NodeMarks (((c :: cs).take i).reverse ++ before) d rest p) ?_ ?_
    · refine (enumerates_topNode s before c).congr fun path p => ?_
      simp
    · refine (enumerates_topAll s (c :: before) cs).congr fun path p => ?_
      simp

end

/-! ## 見つけたものを集めること -/

/-- スクリプトの中の切れ目。 -/
def inside (s : Scope) (trees : Trees) (loader : Loader) (element : Node) : List Breakpoint :=
  ((s.scriptPoints trees element).run (.ofLoader loader)).1

/-- 見つけたもの一つから集まる切れ目。 -/
def collected (s : Scope) (trees : Trees) (loader : Loader) : Found → List Breakpoint
  | .point p => [p]
  | .script element => s.inside trees loader element

variable {loader : Loader} {registry : Registry}

theorem ensures_gather (s : Scope) (trees : Trees) : ∀ found : List Found,
    (s.gather trees found).Ensures (truthful loader) (· = found.flatMap (s.collected trees loader))
  | [] => .pure rfl
  | .point p :: rest => by
    refine (ensures_gather s trees rest).bind ?_
    rintro _ rfl
    exact .pure rfl
  | .script element :: rest => by
    refine (Chunking.determined_scriptPoints s trees element).ensures.bind ?_
    rintro _ rfl
    refine (ensures_gather s trees rest).bind ?_
    rintro _ rfl
    exact .pure rfl

/-- **集めた列は、見つけた順の切れ目に、スクリプトの中の列を挟んだものである。** -/
theorem gather_run (h : registry.Agrees loader) (s : Scope) (trees : Trees) (found : List Found) :
    ((s.gather trees found).run registry).1 = found.flatMap (s.collected trees loader) :=
  ((ensures_gather s trees found).run (kept_truthful loader) h).1

/-! ## 木を歩くこと -/

theorem enumerates_walk (s : Scope) (root : Node) :
    Enumerates ((s.topAll [] root.children).filterMap Found.point?) (s.Recorded root) :=
  (s.enumerates_topAll [] root.children).congr fun _ _ => recorded_iff.symm

/-- 記録する切れ目は、木の中の節のものであり、深さは三段までである。 -/
theorem Recorded.at? {root : Node} {p : Breakpoint} (h : s.Recorded root path p) :
    (∃ n, root.at? path = some n) ∧ p.depth ≤ maxDepth := by
  obtain ⟨a, r, before, n, rfl, htop, hmarks⟩ := h
  rw [Node.at?_append htop.at?]
  cases hmarks with
  | own _ => exact ⟨⟨n, Node.at?_nil n⟩, Nat.zero_le _⟩
  | @inner _ _ _ _ d _ _ _ hb _ hc hopen hlt _ =>
    exact ⟨⟨d, hb.inner_at? hc hopen⟩, hlt⟩

/--
**木を歩くと、記録すべき節の切れ目を、ちょうど一度ずつ記録する。**

スクリプトの中を除いて集まる切れ目は、`Recorded` をみたす番地と切れ目を番地ごとに一度ずつ並べたもの
である。どの番地にも木の節があり、その切れ目は一つで、深さは三段までである。
-/
theorem walk_exact (h : registry.Agrees loader) (s : Scope) (trees : Trees) (root : Node) :
    Enumerates ((s.topAll [] root.children).filterMap Found.point?) (s.Recorded root)
    ∧ (∀ path p, s.Recorded root path p →
        (∃ n, root.at? path = some n) ∧ p.depth ≤ maxDepth ∧ ∀ q, s.Recorded root path q → q = p)
    ∧ ((s.gather trees (s.topAll [] root.children)).run registry).1
      = (s.topAll [] root.children).flatMap (s.collected trees loader) := by
  refine ⟨s.enumerates_walk root, fun path p hp => ?_, gather_run h s trees _⟩
  obtain ⟨hnode, hdepth⟩ := hp.at?
  exact ⟨hnode, hdepth, fun q hq => (s.enumerates_walk root).unique hq hp⟩

/-- 公開する関数の中に、関数のある本文。 -/
def exported : Scope :=
  { source := .ofString "export function f() \x7b\n  function g() \x7b\x7d\n\x7d\n",
    table := .typescript, language := .typescript }

/-- その構文木。公開が関数を包み、関数の中の区画にもう一つの関数がある。 -/
def exportedTree : Node :=
  .mk "program" 0 42
    [.mk "export_statement" 0 41
      [.mk "function_declaration" 7 41
        [.mk "statement_block" 20 41
          [.mk "function_declaration" 24 39 [.mk "statement_block" 37 39 [] []] []] []] []] []] []

/-- 公開は深さ 0 で、包まれた関数の中の関数は、その関数から数えて深さ 2 で、一度だけ記録する。 -/
theorem walk_exact_exported :
    Enumerates [⟨1, some .function, 0⟩, ⟨2, some .function, 2⟩] (exported.Recorded exportedTree)
    ∧ ((exported.gather (fun _ _ => none) (exported.topAll [] exportedTree.children)).run
        (.ofLoader .builtin)).1 = [⟨1, some .function, 0⟩, ⟨2, some .function, 2⟩] := by
  obtain ⟨hpoints, -, hgather⟩ := walk_exact (agrees_ofLoader .builtin) exported (fun _ _ => none)
    exportedTree
  have hfound : (exported.topAll [] exportedTree.children).filterMap Found.point?
      = [⟨1, some .function, 0⟩, ⟨2, some .function, 2⟩] := by decide +kernel
  have hcollected : (exported.topAll [] exportedTree.children).flatMap
      (exported.collected (fun _ _ => none) .builtin)
      = [⟨1, some .function, 0⟩, ⟨2, some .function, 2⟩] := by decide +kernel
  rw [hfound] at hpoints
  exact ⟨hpoints, hgather.trans hcollected⟩

end Scope

end CodeSearch
