import CodeSearch.Embedding.Hosted
import CodeSearch.Proofs.Sorting
import Mathlib.Data.List.Range

/-!
# 届いた項目と文書の組

応答の項目を番号の順に並べ直すので、番号が 0 から順に一つずつあれば、届いた順によらず、文書は自分の番号の
項目と組になる。番号がどれにもなければ、並べ直しても届いた順のままである。

確かめるのは項目の数だけである。数さえ合えば、同じ番号が二度あっても、文書の数以上の番号があっても断らない。
そのときは、番号の小さい順、同じ番号なら届いた順に、前の文書から組にする（`rank`）。

* `embedBatch_of_answered` — 成功の応答が届いたときの、文書を送った結果
* `getElem?_ordered_of_perm` — 番号が一つずつあれば、番号の場所にその項目のベクトルがある
* `rank_lt_iff` — 項目の並ぶ場所の前後は、番号と届いた順で決まる
* `embedBatch_pairs` — 以上をまとめたもの
-/

namespace CodeSearch

namespace Http

variable {σ : Type}

/-- 送れる要求に応答があれば、それを受け取る。 -/
theorem exchange_of_reply {t : Transport σ} {r : Request} {s : Session (Link σ)} {reply : Reply}
    {wire : σ} (hsend : r.defect? = none) (hreply : t r s.peer.wire = (some reply, wire)) :
    exchange t r s = (.ok reply, { s with peer := { s.peer with wire } }) := by
  unfold exchange
  rw [hsend]
  simp only [hreply]

end Http

namespace Hosted

open Http

variable {σ : Type}

/-! ## 届いた応答 -/

/-- 文書を送る要求。 -/
def embeddingRequest (h : Hosted) (texts : List String) : Request :=
  { method := .post, url := h.baseUrl ++ "/embeddings", bearer := some h.apiKey,
    body := some (h.requestBody texts false) }

/-- 文書 `texts` を送ると、項目 `items` のある成功の応答が届き、やりとりが `s'` まで進むこと。 -/
def Answered (h : Hosted) (t : Transport σ) (texts : List String) (s : Session (Link σ))
    (items : List Item) (s' : Session (Link σ)) : Prop :=
  ∃ reply : Reply, exchange t (h.embeddingRequest texts) (await (estimate texts) s) = (.ok reply, s')
    ∧ isSuccess reply.status = true ∧ (Json.parse? reply.body).bind items? = some items

/-- **成功の応答が届けば、文書を送った結果は、届いた項目を並べたものである。** -/
theorem embedBatch_of_answered {h : Hosted} {t : Transport σ} {texts : List String}
    {s s' : Session (Link σ)} {items : List Item} (htexts : texts ≠ [])
    (hanswered : h.Answered t texts s items s') :
    (h.provider t).embedBatch texts s = (matched texts.length items, s') := by
  obtain ⟨reply, hreply, hsuccess, hitems⟩ := hanswered
  have hsome : texts.isEmpty = false := by simpa using htexts
  have hrequest : h.request t texts false s = (h.vectorsOf texts.length reply, s') := by
    unfold embeddingRequest at hreply
    unfold request
    rw [hreply]
  show (if texts.isEmpty then (.ok [], s) else h.request t texts false s) = _
  rw [hsome, if_neg (by decide), hrequest, vectorsOf, if_pos hsuccess, hitems]

/-! ## 並べた項目 -/

/-- 並べ直すときの比べ方。 -/
def precedes (a b : Item) : Bool := decide (a.key < b.key)

theorem orders_precedes (items : List Item) : Orders precedes items where
  asymm := by
    intro a _ b _ hab
    simp only [precedes, decide_eq_true_eq, decide_eq_false_iff_not] at hab ⊢
    omega
  trans := by
    intro a _ b _ c _ hab hbc
    simp only [precedes, decide_eq_false_iff_not] at hab hbc ⊢
    omega

theorem ordered_eq (items : List Item) :
    ordered items = (stableSort precedes items).map (·.vector) := rfl

theorem length_ordered (items : List Item) : (ordered items).length = items.length := by
  rw [ordered_eq, List.length_map, (stableSort_perm precedes items).length_eq]

theorem matched_of_length {count : Nat} {items : List Item} (h : items.length = count) :
    matched count items = .ok (ordered items) := by
  unfold matched
  rw [if_pos ((length_ordered items).trans h)]

theorem matched_of_length_ne {count : Nat} {items : List Item} (h : items.length ≠ count) :
    matched count items = .error (.embedding
      ("expected " ++ toString count ++ " embeddings, got " ++ toString items.length)) := by
  unfold matched
  rw [if_neg (by rwa [length_ordered]), length_ordered]

/-- 番号が 0 から順に一つずつあれば、並べ直した項目の番号は 0 から順に並ぶ。 -/
theorem map_key_stableSort {items : List Item} {count : Nat}
    (h : (items.map (·.index)).Perm ((List.range count).map some)) :
    (stableSort precedes items).map Item.key = List.range count := by
  have hkeys : (items.map Item.key).Perm (List.range count) := by
    have hmap := h.map fun i => i.getD 0
    rw [List.map_map, List.map_map] at hmap
    exact hmap.trans (List.Perm.of_eq (List.map_id _))
  have hsorted : ((stableSort precedes items).map Item.key).Pairwise (· ≤ ·) := by
    refine List.pairwise_map.mpr ((pairwise_stableSort (orders_precedes items)).imp fun hab => ?_)
    simpa [precedes] using hab
  refine List.Perm.eq_of_pairwise (fun a b _ _ hab hba => Nat.le_antisymm hab hba) hsorted
    List.pairwise_le_range ?_
  exact ((stableSort_perm precedes items).map Item.key).trans hkeys

/-- **番号が 0 から順に一つずつあれば、番号の場所にその項目のベクトルがある。** -/
theorem getElem?_ordered_of_perm {items : List Item} {count : Nat}
    (h : (items.map (·.index)).Perm ((List.range count).map some)) {i : Nat} {v : Vec}
    (hitem : { index := some i, vector := v } ∈ items) : (ordered items)[i]? = some v := by
  have hkeys := map_key_stableSort h
  obtain ⟨p, hp⟩ := List.getElem?_of_mem ((stableSort_perm precedes items).mem_iff.mpr hitem)
  -- 並べ直した `p` 番めの番号は `p` なので、`p` は項目の番号である
  have hkey : (List.range count)[p]? = some i := by
    rw [← hkeys, List.getElem?_map, hp]
    rfl
  obtain ⟨hlt, hrange⟩ := List.getElem?_eq_some_iff.mp hkey
  rw [List.getElem_range] at hrange
  rw [ordered_eq, List.getElem?_map, ← hrange, hp]
  rfl

/-- 番号がどれにもなければ、届いた順のままである。 -/
theorem ordered_of_unnumbered {items : List Item} (h : ∀ item ∈ items, item.index = none) :
    ordered items = items.map (·.vector) := by
  rw [ordered_eq, stableSort_of_pairwise]
  refine List.pairwise_of_forall_mem_list fun a ha b hb => ?_
  simp [precedes, Item.key, h a ha, h b hb]

/-! ## 並ぶ場所 -/

/-- `i` 番めに届いた項目が並ぶ場所。その場所の文書と組になる。 -/
def rank (items : List Item) (i : Nat) : Nat := place precedes items i

/-- **先に並ぶのは、番号の小さい項目か、同じ番号なら先に届いた項目である。** -/
theorem rank_lt_iff {items : List Item} {i j : Nat} {a b : Item} (ha : items[i]? = some a)
    (hb : items[j]? = some b) :
    rank items i < rank items j ↔ a.key < b.key ∨ a.key = b.key ∧ i < j := by
  unfold rank
  rw [(orders_precedes items).place_lt_iff ha hb]
  simp only [precedes, decide_eq_true_eq, decide_eq_false_iff_not]
  omega

theorem getElem?_ordered_rank {items : List Item} {i : Nat} {item : Item}
    (hi : items[i]? = some item) : (ordered items)[rank items i]? = some item.vector := by
  rw [ordered_eq, List.getElem?_map, rank, getElem?_place precedes hi]
  rfl

/-! ## 文書を送った結果 -/

/--
**番号が文書と一つずつ対応していれば、文書は自分の番号の項目と組になる。**

* 番号が 0 から順に一つずつあれば、届いた順によらず、`i` 番めの文書は番号 `i` の項目と組になる。
* 番号がどれにもなく、数が合えば、届いた順に組になる。
* 数が合わなければ、致命的でない埋め込みの失敗になる。
* 数が合えば、番号が何であっても断らない。番号の小さい順、同じ番号なら届いた順に組になる。
-/
theorem embedBatch_pairs (h : Hosted) (t : Transport σ) {texts : List String} (htexts : texts ≠ [])
    {s s' : Session (Link σ)} {items : List Item} (hanswered : h.Answered t texts s items s') :
    ((items.map (·.index)).Perm ((List.range texts.length).map some) →
      ∃ vs, (h.provider t).embedBatch texts s = (.ok vs, s') ∧ vs.length = texts.length
        ∧ ∀ i v, { index := some i, vector := v } ∈ items → vs[i]? = some v)
    ∧ ((∀ item ∈ items, item.index = none) → items.length = texts.length →
      (h.provider t).embedBatch texts s = (.ok (items.map (·.vector)), s'))
    ∧ (items.length ≠ texts.length →
      ∃ detail, (h.provider t).embedBatch texts s = (.error (.embedding detail), s')
        ∧ (Error.embedding detail).isFatal = false)
    ∧ (items.length = texts.length →
      ∃ vs, (h.provider t).embedBatch texts s = (.ok vs, s') ∧ vs.length = texts.length
        ∧ ∀ i item, items[i]? = some item → vs[rank items i]? = some item.vector
          ∧ ∀ j other, items[j]? = some other → (rank items i < rank items j ↔
            item.key < other.key ∨ item.key = other.key ∧ i < j)) := by
  rw [embedBatch_of_answered htexts hanswered]
  refine ⟨fun hperm => ?_, fun hnone hlen => ?_, fun hlen => ?_, fun hlen => ?_⟩
  · have hlen : items.length = texts.length := by
      simpa using hperm.length_eq
    rw [matched_of_length hlen]
    exact ⟨_, rfl, (length_ordered items).trans hlen,
      fun i v hitem => getElem?_ordered_of_perm hperm hitem⟩
  · rw [matched_of_length hlen, ordered_of_unnumbered hnone]
  · rw [matched_of_length_ne hlen]
    exact ⟨_, rfl, rfl⟩
  · rw [matched_of_length hlen]
    exact ⟨_, rfl, (length_ordered items).trans hlen, fun i item hi =>
      ⟨getElem?_ordered_rank hi, fun j other hj => rank_lt_iff hi hj⟩⟩

/-! ## 決まった応答を返す相手 -/

/-- いつも同じ本文で成功の応答を返す相手。 -/
def answering (body : String) : Transport Unit :=
  fun _ wire => (some { status := 200, body }, wire)

/-- 鍵 `k` で使う API。 -/
def keyed : Hosted := .ofKey .voyage "k"

/-- 始まったばかりのやりとり。 -/
def opening : Session (Link Unit) := { peer := { wire := () } }

/-- 本文の項目の番号と、ベクトルの長さ。 -/
def outline (body : String) : Option (List (Option Nat × Nat)) :=
  ((Json.parse? body).bind items?).map (·.map fun item => (item.index, item.vector.length))

/-- 本文に項目が二つあれば、二つの文書を送って、その項目を受け取る。 -/
theorem exists_answered {body : String} {i j : Option Nat} {m n : Nat}
    (hbody : outline body = some [(i, m), (j, n)]) :
    ∃ v w s', keyed.Answered (answering body) ["a", "b"] opening [⟨i, v⟩, ⟨j, w⟩] s'
      ∧ v.length = m ∧ w.length = n := by
  obtain ⟨items, hitems, hpair⟩ := Option.map_eq_some_iff.mp hbody
  have hsend : (keyed.embeddingRequest ["a", "b"]).defect? = none := by decide +kernel
  match items, hpair with
  | [⟨i', v⟩, ⟨j', w⟩], hpair =>
    simp only [List.map_cons, List.map_nil, List.cons.injEq, Prod.mk.injEq, and_true] at hpair
    obtain ⟨⟨rfl, rfl⟩, rfl, rfl⟩ := hpair
    exact ⟨v, w, _, ⟨_, exchange_of_reply hsend rfl, rfl, hitems⟩, rfl, rfl⟩

/-- 番号 1 の項目が番号 0 の項目より先にある本文。 -/
def swapped : String :=
  "\x7b\"data\":[\x7b\"embedding\":[3],\"index\":1\x7d,\x7b\"embedding\":[7,7],\"index\":0\x7d]\x7d"

/-- 二つの文書に、番号 1 と 7 の項目がある本文。 -/
def stray : String :=
  "\x7b\"data\":[\x7b\"embedding\":[3],\"index\":1\x7d,\x7b\"embedding\":[7,7],\"index\":7\x7d]\x7d"

/-- 二つの文書に、番号 0 の項目が二つある本文。 -/
def repeated : String :=
  "\x7b\"data\":[\x7b\"embedding\":[3],\"index\":0\x7d,\x7b\"embedding\":[7,7],\"index\":0\x7d]\x7d"

/-- 逆の順に届いても、番号 0 の項目が初めの文書と組になる。 -/
theorem embedBatch_pairs_swapped :
    ∃ v w s', keyed.Answered (answering swapped) ["a", "b"] opening [⟨some 1, v⟩, ⟨some 0, w⟩] s'
      ∧ v.length = 1 ∧ w.length = 2
      ∧ ∃ vs, (keyed.provider (answering swapped)).embedBatch ["a", "b"] opening = (.ok vs, s')
        ∧ vs[0]? = some w ∧ vs[1]? = some v := by
  have hbody : outline swapped = some [(some 1, 1), (some 0, 2)] := by decide
  obtain ⟨v, w, s', hanswered, hv, hw⟩ := exists_answered hbody
  obtain ⟨vs, hvs, -, hpair⟩ :=
    (embedBatch_pairs keyed (answering swapped) (by decide) hanswered).1 (.swap (some 0) (some 1) [])
  exact ⟨v, w, s', hanswered, hv, hw, vs, hvs, hpair 0 w (by simp), hpair 1 v (by simp)⟩

/-- 文書にない番号があっても、同じ番号が二度あっても、数が合えば断らない。
番号 1 の項目は、初めの文書と組になる。 -/
theorem embedBatch_mispairs :
    (∃ v w s', keyed.Answered (answering stray) ["a", "b"] opening [⟨some 1, v⟩, ⟨some 7, w⟩] s'
      ∧ (keyed.provider (answering stray)).embedBatch ["a", "b"] opening = (.ok [v, w], s'))
    ∧ ∃ v w s',
      keyed.Answered (answering repeated) ["a", "b"] opening [⟨some 0, v⟩, ⟨some 0, w⟩] s'
      ∧ (keyed.provider (answering repeated)).embedBatch ["a", "b"] opening
        = (.ok [v, w], s') := by
  have hstray : outline stray = some [(some 1, 1), (some 7, 2)] := by decide
  have hrepeated : outline repeated = some [(some 0, 1), (some 0, 2)] := by decide
  obtain ⟨v, w, s', hanswered, -, -⟩ := exists_answered hstray
  obtain ⟨v', w', s'', hanswered', -, -⟩ := exists_answered hrepeated
  exact ⟨⟨v, w, s', hanswered, embedBatch_of_answered (by decide) hanswered⟩,
    v', w', s'', hanswered', embedBatch_of_answered (by decide) hanswered'⟩

end Hosted

end CodeSearch
