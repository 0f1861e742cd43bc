import CodeSearch.Proofs.Engine.Operations
import CodeSearch.Proofs.Store.Hits

/-!
# 検索の答えは整っていて新しい

達しうるどの状態でも、検索が答えを返せば、結果は求めた数を超えず、同じ断片は二度現れず、どの断片も
答えたときの行のものである。入れ替えたり消したりした行の断片は現れない。

点がどれも比べられるなら（`Comparable`）、結果は並べるのに使った点の大きい順に並ぶ。正確な計算では
いつでも比べられる（`comparable_exact`）。

* `candidates_drawn`、`descending_candidates` — 候補
* `search_well_formed` — 検索の答え
-/

namespace CodeSearch

open Quantity

variable {α : Type} [Quantity α]

/-! ## 点 -/

namespace SearchOptions

/-- 選ぶ候補の数。 -/
def width (o : SearchOptions α) : Nat := if o.rerank then Store.doubled o.limit else o.limit

/-- 候補を並べるのに使う点。 -/
def candidateScore (o : SearchOptions α) (s : Store) (h : Hit α) : Option α :=
  if o.hybrid && s.hasKeywords then h.fusionScore else some h.similarity

/-- 結果を並べるのに使う点。 -/
def rankingScore (o : SearchOptions α) (s : Store) (h : Hit α) : Option α :=
  if o.rerank then h.rerankScore else o.candidateScore s h

end SearchOptions

namespace Engine

variable {F : Keyword.FullText} {metric : Metric α} {o : SearchOptions α} {s : Store}
  {query : String} {v : Vec}

/-- 検索の間に比べる量が、どれも比べられること。 -/
structure Comparable (F : Keyword.FullText) (metric : Metric α) (o : SearchOptions α) (s : Store)
    (query : String) (v : Vec) : Prop where
  measurable : Store.Measurable metric v s
  floor : isOrdered o.minSimilarity = true
  /-- 統合した点。 -/
  fused : ∀ near rows,
    s.vectorSearch metric v (Store.doubled o.width) o.minSimilarity = .ok near →
    s.keywordRows F query (Store.doubled o.width) = .ok rows →
    ∀ h ∈ Rank.fuse [near, rows.map (Store.keywordHit metric v)] o.fusionConstant,
    ∀ y ∈ h.fusionScore, isOrdered y = true
  /-- 付け直した点。 -/
  rescored : ∀ hits, candidates F metric o s query v = .ok hits →
    ∀ h ∈ Rank.rerank query hits, ∀ y ∈ h.rerankScore, isOrdered y = true

/-- **正確な計算では、どの量も比べられる。** -/
theorem comparable_exact (F : Keyword.FullText) (metric : Metric Rat) (o : SearchOptions Rat)
    (s : Store) (query : String) (v : Vec) : Comparable F metric o s query v where
  measurable := Store.measurable_exact metric v s
  floor := Rank.isOrdered_exact _
  fused := fun _ _ _ _ _ _ _ _ => Rank.isOrdered_exact _
  rescored := fun _ _ _ _ _ _ => Rank.isOrdered_exact _

/-! ## 候補 -/

theorem candidates_eq : candidates F metric o s query v
    = if o.hybrid then s.hybridSearch F metric query v o.width o.minSimilarity o.fusionConstant
      else s.vectorSearch metric v o.width o.minSimilarity := rfl

/-- **候補は、いまの行から引いたものである。** -/
theorem candidates_drawn (hs : s.Sound) {hits : List (Hit α)}
    (h : candidates F metric o s query v = .ok hits) : Store.Drawn metric v s hits := by
  rw [candidates_eq] at h
  split at h
  · exact Store.hybridSearch_drawn hs h
  · exact Store.vectorSearch_drawn hs h

/-- 語を合わせないなら、候補の類似度は `minSimilarity` を下回らない。 -/
theorem not_lt_candidates (hybrid : o.hybrid = false) {hits : List (Hit α)}
    (h : candidates F metric o s query v = .ok hits) :
    ∀ x ∈ hits, lt x.similarity o.minSimilarity = false := by
  rw [candidates_eq, hybrid] at h
  exact (Store.vectorSearch_sublist h).2.2

/-- **候補は、点の大きい順に並ぶ。** -/
theorem descending_candidates [LawfulQuantity α] (hs : s.Sound)
    (hc : Comparable F metric o s query v) {hits : List (Hit α)}
    (h : candidates F metric o s query v = .ok hits) :
    Rank.Descending (o.candidateScore s) hits := by
  rw [candidates_eq] at h
  unfold SearchOptions.candidateScore
  cases hybrid : o.hybrid with
  | true =>
    rw [hybrid] at h
    exact Store.descending_hybridSearch hs hc.measurable h hc.fused
  | false =>
    rw [hybrid] at h
    exact Store.descending_vectorSearch hs hc.measurable h

/-! ## 並べ直した結果 -/

theorem length_arrange (o : SearchOptions α) (query : String) (hits : List (Hit α)) :
    (arrange o query hits).length ≤ o.limit := by
  unfold arrange Rank.display
  rw [List.length_map]
  exact List.length_take_le _ _

/-- 並べ直した結果の類似度は、候補の類似度である。 -/
theorem mem_arrange {hits : List (Hit α)} {h : Hit α} (hin : h ∈ arrange o query hits) :
    ∃ g ∈ hits, h.similarity = g.similarity := by
  obtain ⟨g, hg, rfl⟩ := List.mem_map.mp hin
  have hg := List.mem_of_mem_take hg
  split at hg
  · obtain ⟨x, hx, rfl⟩ := Rank.mem_rerank hg
    exact ⟨x, hx, rfl⟩
  · exact ⟨g, hg, rfl⟩

theorem arrange_drawn {hits : List (Hit α)} (h : Store.Drawn metric v s hits) :
    Store.Drawn metric v s (arrange o query hits) := by
  unfold arrange
  split
  · exact ((h.rerank query).take o.limit).display
  · exact (h.take o.limit).display

/-- **結果は、並べるのに使った点の大きい順に並ぶ。** -/
theorem descending_arrange [LawfulQuantity α] (hs : s.Sound) (hc : Comparable F metric o s query v)
    {hits : List (Hit α)} (h : candidates F metric o s query v = .ok hits) :
    Rank.Descending (o.rankingScore s) (arrange o query hits) := by
  unfold arrange SearchOptions.rankingScore
  by_cases hrerank : o.rerank = true
  · simp only [if_pos hrerank]
    exact ((Rank.descending_rerank (hc.rescored hits h)).take o.limit).display fun _ _ => rfl
  · simp only [if_neg hrerank]
    refine ((descending_candidates hs hc h).take o.limit).display fun x y => ?_
    unfold SearchOptions.candidateScore
    split <;> rfl

/-! ## 検索 -/

variable {σ : Type} {e : Engine} {p : Provider σ} {session : Session σ}

/-- 問い合わせに答えたなら、問い合わせのベクトルが得られ、答えは候補を並べ直したものである。 -/
theorem search_eq_ok {answer : SearchSummary α}
    (hok : (search p F metric o e query session).1 = .ok answer) (hready : answer.indexReady = true)
    (herror : answer.error = none) :
    ∃ v hits, (Embedding.embedQuery p query session).1 = .ok v
      ∧ candidates F metric o e.store query v = .ok hits
      ∧ answer = { query, results := arrange o query hits,
                   totalResults := (arrange o query hits).length } := by
  -- 行がない、問い合わせを埋め込めない、候補を得られない、の三つの枝では答えにならない
  unfold search at hok
  split at hok
  · cases hok
    cases hready
  · split at hok
    · next err t hembed =>
      simp only [] at hok
      split at hok
      · cases hok
      · cases hok
        cases herror
    · next v t hembed =>
      cases hhits : candidates F metric o e.store query v with
      | error err =>
        rw [hhits] at hok
        cases hok
      | ok hits =>
        rw [hhits] at hok
        exact ⟨v, hits, congrArg Prod.fst hembed, hhits, (Except.ok.inj hok).symm⟩

/--
**検索の答えは整っていて新しい。**

達しうるどの状態でも、問い合わせが誤りなく答えられたなら、答えは次のとおりである。

* 結果の数は伝えた数に等しく、求めた数を超えない。
* 結果の断片の名前に重なりはない。
* どの断片も答えたときの行のもので、類似度はその行のベクトルと問い合わせのベクトル `v` から測る。
* 語を合わせないなら、どの類似度も `minSimilarity` を下回らない。
* 比べる量がどれも比べられるなら、下回らないのは以上のときで、結果は、点を付け直したなら付け直した点の、
  語を合わせて語の索引があるなら統合した点の、そうでなければ類似度の、大きい順に並ぶ。
-/
theorem search_well_formed [LawfulQuantity α] (he : Reachable e) {answer : SearchSummary α}
    (hok : (search p F metric o e query session).1 = .ok answer) (hready : answer.indexReady = true)
    (herror : answer.error = none) :
    ∃ v, (Embedding.embedQuery p query session).1 = .ok v
    ∧ answer.results.length = answer.totalResults ∧ answer.totalResults ≤ o.limit
    ∧ (answer.results.map (·.chunk.id)).Nodup
    ∧ (∀ h ∈ answer.results, ∃ r ∈ e.store.rows, h.chunk = r.chunk
      ∧ h.similarity = Rank.similarity (metric v r.vector))
    ∧ (o.hybrid = false → ∀ h ∈ answer.results, lt h.similarity o.minSimilarity = false)
    ∧ (Comparable F metric o e.store query v →
      (o.hybrid = false → ∀ h ∈ answer.results, le o.minSimilarity h.similarity = true)
      ∧ Rank.Descending (fun h =>
          if o.rerank then h.rerankScore
          else if o.hybrid && e.store.hasKeywords then h.fusionScore
          else some h.similarity) answer.results) := by
  have hs := he.store.sound
  obtain ⟨v, hits, hv, hhits, rfl⟩ := search_eq_ok hok hready herror
  have hdrawn : Store.Drawn metric v e.store (arrange o query hits) :=
    arrange_drawn (candidates_drawn hs hhits)
  have hfloor : o.hybrid = false → ∀ h ∈ arrange o query hits,
      lt h.similarity o.minSimilarity = false := by
    intro hybrid h hin
    obtain ⟨g, hg, heq⟩ := mem_arrange hin
    rw [heq]
    exact not_lt_candidates hybrid hhits g hg
  refine ⟨v, hv, rfl, length_arrange o query hits, hdrawn.distinct, hdrawn.current, hfloor,
    fun hc => ⟨fun hybrid h hin => ?_, descending_arrange hs hc hhits⟩⟩
  -- 類似度も比べられるから、下回らないことと以上であることは同じである
  obtain ⟨r, hr, -, hsimilarity⟩ := hdrawn.current h hin
  have hself := hc.measurable.antitone r hr r hr (hc.measurable.ordered r hr)
  have hordered : isOrdered h.similarity = true := by
    rw [hsimilarity]
    exact (LawfulQuantity.ordered_of_le hself).1
  have hnot := hfloor hybrid h hin
  rwa [LawfulQuantity.lt_eq_not_le hordered hc.floor, Bool.not_eq_false'] at hnot

/-- 具合のよい提供元で二つのファイルに索引づけした状態。 -/
def indexed : Engine :=
  ((Request.index false (fun _ => false) [] notes { peer := true }).perform flaky fresh).engine

/-- 語を合わせ、点を付け直して、一つだけを求める選び方。 -/
def foremost : SearchOptions Float :=
  { limit := 1, minSimilarity := 0.5, hybrid := true, rerank := true, fusionConstant := 60 }

theorem comparable_foremost :
    Comparable .builtin Vec.metric foremost indexed.store "x" [1.0] where
  measurable := ⟨by decide +kernel, by decide +kernel⟩
  floor := by decide +kernel
  fused := by
    have hall : ((indexed.store.vectorSearch Vec.metric [1.0] 4 0.5).toOption.all fun near =>
        (indexed.store.keywordRows .builtin "x" 4).toOption.all fun rows =>
          (Rank.fuse [near, rows.map (Store.keywordHit Vec.metric [1.0])] 60).all
            (·.fusionScore.all isOrdered)) = true := by
      decide +kernel
    intro near rows hnear hrows h hin y hy
    rw [show indexed.store.vectorSearch Vec.metric [1.0] 4 0.5 = .ok near from hnear,
      show indexed.store.keywordRows .builtin "x" 4 = .ok rows from hrows] at hall
    have hone := List.all_eq_true.mp hall h hin
    rwa [Option.mem_def.mp hy] at hone
  rescored := by
    have hall : ((candidates .builtin Vec.metric foremost indexed.store "x" [1.0]).toOption.all
        fun hits => (Rank.rerank "x" hits).all (·.rerankScore.all isOrdered)) = true := by
      decide +kernel
    intro hits hhits h hin y hy
    rw [hhits] at hall
    have hone := List.all_eq_true.mp hall h hin
    rwa [Option.mem_def.mp hy] at hone

/-- 二つの断片から、語に合う一つだけを返す。 -/
theorem search_well_formed_foremost :
    Reachable indexed ∧ ∃ answer,
      (search flaky .builtin Vec.metric foremost indexed "x" { peer := true }).1 = .ok answer
      ∧ answer.indexReady = true ∧ answer.error = none
      ∧ answer.results.map (·.chunk.id) = ["a.txt:1-1"] ∧ answer.totalResults = 1
      ∧ (∀ h ∈ answer.results, ∃ r ∈ indexed.store.rows, h.chunk = r.chunk
        ∧ h.similarity = Rank.similarity (Vec.metric [1.0] r.vector))
      ∧ Rank.Descending (·.rerankScore) answer.results := by
  have hreach : Reachable indexed := (Reachable.new {} .builtin Digest.hex true).perform flaky _
  have hres : (search flaky .builtin Vec.metric foremost indexed "x"
      { peer := true }).1.toOption.map (fun a => (a.indexReady, a.error, a.results.map (·.chunk.id)))
      = some (true, none, ["a.txt:1-1"]) := by
    decide +kernel
  refine ⟨hreach, ?_⟩
  obtain ⟨answer, hrun, hread⟩ := exists_ok_of_toOption hres
  obtain ⟨hready, hrest⟩ := Prod.mk.inj hread
  obtain ⟨herror, hids⟩ := Prod.mk.inj hrest
  obtain ⟨v, hv, hlength, -, -, hcurrent, -, hranked⟩ :=
    search_well_formed hreach hrun hready herror
  obtain rfl : [1.0] = v := Except.ok.inj hv
  refine ⟨answer, hrun, hready, herror, hids, ?_, hcurrent, (hranked comparable_foremost).2⟩
  rw [← hlength, ← List.length_map (·.chunk.id), hids]
  rfl

end Engine

end CodeSearch
