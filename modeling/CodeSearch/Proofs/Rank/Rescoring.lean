import CodeSearch.Proofs.Identifier
import CodeSearch.Proofs.Rank

/-!
# 点の付け直しは、点のほかは並べ替えるだけである

点は元の点を読まずに付ける。だから、点を付けてから並べても、並べてから点を付けても同じである
（`rerank_eq`）。並べ替えの中身は、元の番号から付け直した後の場所への対応（`position`）で表す。

* `mem_rerank`、`descending_rerank` — 点の型によらないこと
* `rerank_rerank` — 付け直したものを付け直しても変わらない
* `rerank_congr` — 語の集まりが同じ問い合わせは、同じ結果を返す
* `position_lt_iff`、`position_set_le` — 場所の前後は点と元の順で決まり、類似度が上がれば後ろへは動かない
* `rerank_stable_monotone` — 以上をまとめたもの
-/

namespace CodeSearch.Rank

open Quantity

variable {α : Type} [Quantity α]

/-- 問い合わせに対して付け直した点。 -/
def freshScore (query : String) (h : Hit α) : α := score (Identifier.tokenize query).eraseDups h

/-- 点を付け直した、並べる前の結果。 -/
def rescored (query : String) (hits : List (Hit α)) : List (Hit α) :=
  hits.map fun h => { h with rerankScore := some (freshScore query h) }

theorem rerank_perm (query : String) (hits : List (Hit α)) :
    (rerank query hits).Perm (rescored query hits) :=
  byScoreDesc_perm _ _

/-- 並べてから点を付けても同じである。 -/
theorem rerank_eq (query : String) (hits : List (Hit α)) :
    rerank query hits = rescored query (byScoreDesc (freshScore query) hits) :=
  stableSort_map _ _ hits

/-- **付け直した結果は、元の結果に点を付けたものである。** -/
theorem mem_rerank {query : String} {hits : List (Hit α)} {h : Hit α}
    (hin : h ∈ rerank query hits) :
    ∃ g ∈ hits, h = { g with rerankScore := some (freshScore query g) } := by
  obtain ⟨g, hg, rfl⟩ := List.mem_map.mp ((rerank_perm query hits).mem_iff.mp hin)
  exact ⟨g, hg, rfl⟩

/-- **点がどれも比べられるなら、付け直した結果は点の大きい順に並ぶ。** -/
theorem descending_rerank [LawfulQuantity α] {query : String} {hits : List (Hit α)}
    (h : ∀ x ∈ rerank query hits, ∀ y ∈ x.rerankScore, isOrdered y = true) :
    Descending (·.rerankScore) (rerank query hits) := by
  refine .of_byScoreDesc (fun x hx => ?_) fun x hx => h x ((rerank_perm query hits).mem_iff.mpr hx)
  obtain ⟨g, -, rfl⟩ := List.mem_map.mp hx
  exact ⟨freshScore query g, rfl⟩

/-! ## 問い合わせの語の順と重なり -/

theorem overlap_perm {words words' : List String} (h : words.Perm words') (tokens : List String) :
    overlap words tokens = (overlap words' tokens : α) := by
  unfold overlap
  rw [h.isEmpty_eq, h.length_eq, (h.filter _).length_eq]

/-- 語の集まりが同じ問い合わせは、同じ点を付ける。 -/
theorem freshScore_congr {query query' : String}
    (h : ∀ word, word ∈ Identifier.tokenize query ↔ word ∈ Identifier.tokenize query') :
    freshScore query = (freshScore query' : Hit α → α) := by
  have hperm := Identifier.eraseDups_perm h
  funext hit
  unfold freshScore score
  rw [overlap_perm hperm, overlap_perm hperm]

/-- **語の集まりが同じ問い合わせは、同じ結果を返す。** -/
theorem rerank_congr {query query' : String}
    (h : ∀ word, word ∈ Identifier.tokenize query ↔ word ∈ Identifier.tokenize query')
    (hits : List (Hit α)) : rerank query hits = rerank query' hits := by
  rw [rerank_eq, rerank_eq]
  unfold rescored
  rw [freshScore_congr h]

/-! ## 正確な計算での点 -/

section

variable {query : String} {hits : List (Hit Rat)}

theorem priority_mem (kind : ChunkType) :
    1 / 10 ≤ (priority kind : Rat) ∧ (priority kind : Rat) ≤ 1 := by
  cases kind <;> decide +kernel

theorem overlap_mem (words tokens : List String) :
    0 ≤ (overlap words tokens : Rat) ∧ (overlap words tokens : Rat) ≤ 1 := by
  unfold overlap
  split
  · exact ⟨le_rfl, zero_le_one⟩
  · have hle : ((words.filter tokens.contains).length : Rat) ≤ words.length :=
      Nat.cast_le.mpr (List.length_filter_le _ _)
    exact ⟨div_nonneg (Nat.cast_nonneg _) (Nat.cast_nonneg _),
      div_le_one_of_le₀ hle (Nat.cast_nonneg _)⟩

/-- 四つの重みの和は 1 である。 -/
theorem freshScore_eq (query : String) (h : Hit Rat) :
    freshScore query h = 1 / 2 * h.similarity
      + 3 / 10 * overlap (Identifier.tokenize query).eraseDups (Identifier.tokenize h.chunk.text)
      + 1 / 10 * overlap (Identifier.tokenize query).eraseDups (Identifier.tokenize h.chunk.path)
      + 1 / 10 * priority h.chunk.kind := by
  have hhalf : (decimal 5 1 : Rat) = 1 / 2 := by decide +kernel
  have hthree : (decimal 3 1 : Rat) = 3 / 10 := by decide +kernel
  have hone : (decimal 1 1 : Rat) = 1 / 10 := by decide +kernel
  unfold freshScore score
  rw [hhalf, hthree, hone]

/-- **類似度が 0 から 1 なら、点は 0 より大きく 1 以下である。** -/
theorem freshScore_mem {h : Hit Rat} (h0 : 0 ≤ h.similarity) (h1 : h.similarity ≤ 1) :
    0 < freshScore query h ∧ freshScore query h ≤ 1 := by
  have hkind := priority_mem h.chunk.kind
  have htext := overlap_mem (Identifier.tokenize query).eraseDups (Identifier.tokenize h.chunk.text)
  have hpath := overlap_mem (Identifier.tokenize query).eraseDups (Identifier.tokenize h.chunk.path)
  rw [freshScore_eq]
  constructor <;> linarith

theorem freshScore_mono (query : String) {h : Hit Rat} {x : Rat} (hx : h.similarity ≤ x) :
    freshScore query h ≤ freshScore query { h with similarity := x } := by
  rw [freshScore_eq, freshScore_eq]
  gcongr

/-! ## 付け直したものを付け直す -/

theorem orders_freshScore (query : String) (hits : List (Hit Rat)) :
    Orders (fun a b => lt (freshScore query b) (freshScore query a)) hits :=
  orders_score fun _ _ => isOrdered_exact _

/-- **付け直したものを付け直しても変わらない。** -/
theorem rerank_rerank (query : String) (hits : List (Hit Rat)) :
    rerank query (rerank query hits) = rerank query hits := by
  have hsorted : byScoreDesc (freshScore query) (rerank query hits) = rerank query hits := by
    refine stableSort_of_pairwise ?_
    rw [rerank_eq]
    exact List.pairwise_map.mpr (pairwise_stableSort (orders_freshScore query hits))
  rw [rerank_eq, hsorted, rerank_eq]
  unfold rescored
  rw [List.map_map]
  rfl

/-! ## 場所 -/

/-- 元の `i` 番めの結果が、付け直した後に来る場所。 -/
def position (query : String) (hits : List (Hit Rat)) (i : Nat) : Nat :=
  place (fun a b => lt (freshScore query b) (freshScore query a)) hits i

variable {i j : Nat} {a b : Hit Rat}

/-- **付け直した後のその場所には、点を付けた元の結果がある。** -/
theorem getElem?_position (ha : hits[i]? = some a) :
    (rerank query hits)[position query hits i]?
      = some { a with rerankScore := some (freshScore query a) } := by
  rw [rerank_eq]
  unfold rescored
  rw [List.getElem?_map]
  exact congrArg _ (getElem?_place (fun a b => lt (freshScore query b) (freshScore query a)) ha)

/-- **前に並ぶのは、点の大きいほうか、同点なら元から前にあったほうである。** -/
theorem position_lt_iff (ha : hits[i]? = some a) (hb : hits[j]? = some b) :
    position query hits i < position query hits j ↔
      freshScore query b < freshScore query a
        ∨ freshScore query a = freshScore query b ∧ i < j := by
  refine ((orders_freshScore query hits).place_lt_iff ha hb).trans ?_
  simp only [lt, decide_eq_true_eq, decide_eq_false_iff_not, not_lt]
  constructor
  · rintro (hlt | ⟨hle, hij⟩)
    · exact Or.inl hlt
    · exact hle.lt_or_eq.imp id fun heq => ⟨heq.symm, hij⟩
  · rintro (hlt | ⟨heq, hij⟩)
    · exact Or.inl hlt
    · exact Or.inr ⟨heq.ge, hij⟩

/-- **ほかを変えずに類似度を上げても、場所は後ろへは動かない。** -/
theorem position_set_le {x : Rat} (ha : hits[i]? = some a) (hx : a.similarity ≤ x) :
    position query (hits.set i { a with similarity := x }) i ≤ position query hits i := by
  have hi := (List.getElem?_eq_some_iff.mp ha).1
  have hraised : (hits.set i { a with similarity := x })[i]? = some { a with similarity := x } :=
    List.getElem?_set_self hi
  refine place_le_place (List.length_set ..) (by rwa [List.length_set]) fun j hj hlt => ?_
  have hne : i ≠ j := by
    rintro rfl
    exact Nat.lt_irrefl _ hlt
  rw [List.length_set] at hj
  have hb : hits[j]? = some hits[j] := List.getElem?_eq_getElem hj
  have hkept : (hits.set i { a with similarity := x })[j]? = some hits[j] := by
    rw [List.getElem?_set_ne hne, hb]
  -- 点は上がるので、上げた後も前にあるものは、上げる前も前にあった
  have hle := freshScore_mono query hx
  refine (position_lt_iff hb ha).mpr ?_
  rcases (position_lt_iff hkept hraised).mp hlt with hlt | ⟨heq, hij⟩
  · exact Or.inl (hle.trans_lt hlt)
  · rw [← heq] at hle
    exact hle.lt_or_eq.imp id fun heq => ⟨heq.symm, hij⟩

/--
**点の付け直しは、点のほかは並べ替えるだけで、同点の順を保ち、類似度について単調である。**

* 結果は、元の結果に点を付けたものの並べ替えで、点の大きい順に並ぶ。元の `i` 番めは `position` の場所に
  あり、前に並ぶのは点の大きいほうか、同点なら元から前にあったほうである。
* 類似度が 0 から 1 なら、点は 0 より大きく 1 以下である。
* 付け直したものを付け直しても変わらない。
* 語の集まりが同じ問い合わせは、語の順や重なりによらず、同じ結果を返す。
* ほかを変えずに一つの類似度を上げても、その場所は後ろへは動かない。
-/
theorem rerank_stable_monotone (query : String) (hits : List (Hit Rat)) :
    (rerank query hits).Perm (rescored query hits)
    ∧ Descending (·.rerankScore) (rerank query hits)
    ∧ (∀ i a, hits[i]? = some a → (rerank query hits)[position query hits i]?
      = some { a with rerankScore := some (freshScore query a) })
    ∧ (∀ i j a b, hits[i]? = some a → hits[j]? = some b →
      (position query hits i < position query hits j ↔
        freshScore query b < freshScore query a
          ∨ freshScore query a = freshScore query b ∧ i < j))
    ∧ (∀ h ∈ rerank query hits, 0 ≤ h.similarity → h.similarity ≤ 1 →
      ∃ points, h.rerankScore = some points ∧ 0 < points ∧ points ≤ 1)
    ∧ rerank query (rerank query hits) = rerank query hits
    ∧ (∀ query', (∀ word, word ∈ Identifier.tokenize query ↔ word ∈ Identifier.tokenize query') →
      rerank query hits = rerank query' hits)
    ∧ ∀ i a x, hits[i]? = some a → a.similarity ≤ x →
      position query (hits.set i { a with similarity := x }) i ≤ position query hits i := by
  refine ⟨rerank_perm query hits, descending_rerank fun _ _ _ _ => isOrdered_exact _,
    fun _ _ => getElem?_position, fun _ _ _ _ => position_lt_iff, fun h hin h0 h1 => ?_,
    rerank_rerank query hits, fun _ hwords => rerank_congr hwords hits, fun _ _ _ => position_set_le⟩
  obtain ⟨g, -, rfl⟩ := mem_rerank hin
  exact ⟨_, rfl, freshScore_mem h0 h1⟩

end

/-! ### 取り込みと関数 -/

/-- 類似度は取り込みのほうが大きいが、問い合わせの語は関数にある。 -/
def importThenFunction : List (Hit Rat) :=
  [{ chunk := .ofSpan "src/io.rs" 1 3 "use std::io;" .import "rust" 0, similarity := 4 / 5 },
    { chunk := .ofSpan "src/auth.rs" 1 3 "fn check_token() \x7b\x7d" .function "rust" 0,
      similarity := 7 / 10 }]

/-- 関数が前に出る。語を繰り返しても入れ替えても同じで、類似度を上げた取り込みは後ろへは動かない。 -/
theorem rerank_stable_monotone_callable :
    (∀ h ∈ rerank "check token" importThenFunction, 0 ≤ h.similarity ∧ h.similarity ≤ 1)
    ∧ (∀ h ∈ rerank "check token" importThenFunction,
      ∃ points, h.rerankScore = some points ∧ 0 < points ∧ points ≤ 1)
    ∧ position "check token" importThenFunction 1 < position "check token" importThenFunction 0
    ∧ rerank "check token" importThenFunction = rerank "Token token_check" importThenFunction
    ∧ ∀ a, importThenFunction[0]? = some a →
      position "check token" (importThenFunction.set 0 { a with similarity := 1 }) 0
        ≤ position "check token" importThenFunction 0 := by
  have hunit : ∀ h ∈ rerank "check token" importThenFunction,
      0 ≤ h.similarity ∧ h.similarity ≤ 1 := by
    have hgiven : ∀ g ∈ importThenFunction, 0 ≤ g.similarity ∧ g.similarity ≤ 1 := by
      decide +kernel
    intro h hin
    obtain ⟨g, hg, rfl⟩ := mem_rerank hin
    exact hgiven g hg
  have hwords : ∀ word, word ∈ Identifier.tokenize "check token"
      ↔ word ∈ Identifier.tokenize "Token token_check" := by
    have hone : Identifier.tokenize "check token" = ["check", "token"] := by decide +kernel
    have htwo : Identifier.tokenize "Token token_check" = ["token", "token", "check"] := by
      decide +kernel
    intro word
    rw [hone, htwo]
    simp only [List.mem_cons, List.not_mem_nil, or_false, or_self_left]
    exact or_comm
  obtain ⟨-, -, -, hfront, hscores, -, hsame, hraise⟩ :=
    rerank_stable_monotone "check token" importThenFunction
  refine ⟨hunit, fun h hin => hscores h hin (hunit h hin).1 (hunit h hin).2,
    (hfront 1 0 _ _ rfl rfl).mpr (Or.inl (by decide +kernel)), hsame _ hwords, fun a ha => ?_⟩
  obtain rfl := Option.some.inj ha
  exact hraise 0 _ 1 rfl (by decide +kernel)

end CodeSearch.Rank
