import CodeSearch.Proofs.Keyword.Index
import CodeSearch.Proofs.Store.Representation
import Mathlib.Data.List.Perm.Basic

/-!
# 語の索引は、いまの行だけを指す

語の索引は行とは別の写しで、行を足す・入れ替える・消すたびに命令を送って合わせる。消すときは行の古い
中身を送るので、送る命令はいつも正しく、索引はいまの行の中身をちょうど一つずつ持つ。

索引の仕組みは `ExternalContent` の約束を守るものなら何でもよい。

* `Indexed` — 索引が、いまの行の中身をちょうど一つずつ持つこと
* `Encoded` — どの行も、断片をそのまま列に直したものであること
* `keywordSearch_current` — 語の検索は、いまの行のうち語に合うものをちょうど一つずつ返す
-/

namespace CodeSearch

/-! ## 語に合う本文 -/

namespace Keyword

/-- 本文が利用者の文に合うか。識別子を分けた語の欄で合ってもよい。語のない文には何も合わない。 -/
def matchesText (hits : Hits) (query text : String) : Bool :=
  let terms := " ".intercalate (Identifier.allTerms text)
  expression query != "" && hits (expression query) text terms

/-- 利用者の文から集めた語は、引用符で囲める。 -/
theorem quotable_of_mem_queryWords {query word : String} (h : word ∈ queryWords query) :
    Quotable word where
  ne_empty := (mem_queryWords.mp h).1
  quote_notMem := quote_notMem_queryWords h
  nul_notMem := notMem_queryWords (by decide) (by decide) h

/-- 利用者の文の式についての、索引の答え。 -/
theorem ExternalContent.search_expression {F : FullText} {hits : Hits} (hF : ExternalContent F hits)
    {log : List Command} (hlog : Legal log) {query : String} (hne : expression query ≠ "") :
    ∃ ids, F.search log (expression query) = .ok ids
      ∧ ids.Perm (((documents log).filter fun d => hits (expression query) d.text d.terms).map
        (·.row)) := by
  have hwords : queryWords query ≠ [] := fun hnil => hne (expression_eq_empty.mpr hnil)
  have hanswer := hF.search_perm hlog hwords fun w hw => quotable_of_mem_queryWords hw
  rwa [show anyOf (queryWords query) = expression query from (expression_eq query).symm] at hanswer

end Keyword

namespace Row

/-- 行の断片に、ベクトルを付け直したもの。 -/
def embedded (r : Row) : Chunk := { r.chunk with vector := some r.vector }

/-- 読み戻した断片の時刻に、端数はない。 -/
theorem stored_embedded (r : Row) : r.embedded.stored = r.chunk := by
  have htime : Timestamp.millis (Timestamp.ofMillis r.createdAt) = r.createdAt :=
    Int.mul_fdiv_cancel _ (by decide)
  unfold embedded Chunk.stored chunk
  simp only [htime]

end Row

namespace Store

variable {s : Store}

@[simp] theorem rows_prepare (s : Store) (n : Nat) : (s.prepare n).rows = s.rows := by
  unfold prepare
  split <;> rfl

/-! ## 行は断片を列に直したもの -/

/-- どの行も、断片をそのまま列に直したものであること。 -/
def Encoded (s : Store) : Prop := ∀ r ∈ s.rows, ∃ c v, r = Row.ofChunk r.id c v

theorem kept_encoded : Kept Encoded where
  prepare := by
    intro s _ h n r hr
    rw [rows_prepare] at hr
    exact h r hr
  dropFile := fun _ h path r hr => h r (List.mem_filter.mp hr).1
  put := by
    intro s _ h c v _ _
    unfold Store.put
    split
    · intro x hx
      obtain ⟨y, hy, rfl⟩ := List.mem_map.mp hx
      split
      · exact ⟨c, v, rfl⟩
      · exact h y hy
    · intro x hx
      rcases List.mem_append.mp hx with hx | hx
      · exact h x hx
      · rw [List.mem_singleton.mp hx]
        exact ⟨c, v, rfl⟩

/-! ## 索引は行の中身をちょうど一つずつ持つ -/

/-- 索引があれば、送った命令は正しく、索引はいまの行の中身をちょうど一つずつ持つこと。 -/
def Indexed (s : Store) : Prop := ∀ log, s.keywords = some log →
  Keyword.Legal log ∧ (Keyword.documents log).Perm (s.rows.map (·.document))

/-- 持っていない行を足す。 -/
theorem legal_insert {log : List Keyword.Command} {ds : List Keyword.Document}
    (h : Keyword.Legal log) (hperm : (Keyword.documents log).Perm ds) {d : Keyword.Document}
    (hnew : d.row ∉ ds.map (·.row)) : Keyword.Legal (log ++ [.insert d])
      ∧ (Keyword.documents (log ++ [.insert d])).Perm (ds ++ [d]) := by
  refine ⟨h.snoc fun hmem => hnew ((hperm.map _).mem_iff.mp hmem), ?_⟩
  rw [Keyword.documents_append]
  exact hperm.append_right _

/-- 持っている行を消すと、ほかの行だけが残る。 -/
theorem legal_delete {log : List Keyword.Command} {d : Keyword.Document}
    {rest : List Keyword.Document} (h : Keyword.Legal log)
    (hperm : (Keyword.documents log).Perm (d :: rest)) : Keyword.Legal (log ++ [.delete d])
      ∧ (Keyword.documents (log ++ [.delete d])).Perm rest := by
  refine ⟨h.snoc (hperm.mem_iff.mpr List.mem_cons_self), ?_⟩
  rw [Keyword.documents_append]
  have herase := hperm.erase d
  rwa [List.erase_cons_head] at herase

/-- 持っている行を順に消すと、ほかの行だけが残る。 -/
theorem legal_deletes : ∀ (gone : List Keyword.Document) {log : List Keyword.Command}
    {rest : List Keyword.Document}, Keyword.Legal log →
    (Keyword.documents log).Perm (gone ++ rest) →
    Keyword.Legal (log ++ gone.map .delete)
      ∧ (Keyword.documents (log ++ gone.map .delete)).Perm rest
  | [], log, rest, h, hperm => by
    rw [List.map_nil, List.append_nil]
    exact ⟨h, hperm⟩
  | d :: gone, log, rest, h, hperm => by
    obtain ⟨hlegal, hrest⟩ := legal_delete h hperm
    have hall := legal_deletes gone hlegal hrest
    rwa [List.append_assoc] at hall

theorem Sound.nodup_ids (hs : s.Sound) : (s.rows.map (·.id)).Nodup :=
  hs.ascending.imp Nat.ne_of_lt

theorem Indexed.addRow (h : s.Indexed) (hs : s.Sound) (c : Chunk) (v : Vec) :
    (s.addRow c v).Indexed := by
  intro log hlog
  obtain ⟨old, hold, rfl⟩ := Option.map_eq_some_iff.mp hlog
  obtain ⟨hlegal, hperm⟩ := h old hold
  show _ ∧ (Keyword.documents _).Perm ((s.rows ++ [_]).map _)
  rw [List.map_append]
  refine legal_insert hlegal hperm fun hmem => ?_
  -- 新しい番号は、どの行の番号よりも大きい
  rw [List.map_map] at hmem
  obtain ⟨r, hr, hid⟩ := List.mem_map.mp hmem
  have hbounded := hs.bounded r hr
  have hnew : r.id = s.lastId + 1 := hid
  omega

/-- 番号が同じ行は一つだけなので、入れ替えは一つの行だけを替える。 -/
theorem Sound.changeRow_rows (hs : s.Sound) {r : Row} (hr : r ∈ s.rows) (c : Chunk) (v : Vec) :
    ∃ before after, s.rows = before ++ r :: after
      ∧ (s.changeRow r c v).rows = before ++ Row.ofChunk r.id c v :: after
      ∧ r.id ∉ (before ++ after).map (·.id) := by
  obtain ⟨before, after, hrows⟩ := List.append_of_mem hr
  have hmiddle : (before ++ r :: after).Perm (r :: (before ++ after)) := List.perm_middle
  have hids := hs.nodup_ids
  rw [hrows, (hmiddle.map (·.id)).nodup_iff, List.map_cons, List.nodup_cons] at hids
  have hkeep : ∀ xs : List Row, xs ⊆ before ++ after →
      (xs.map fun x => if x.id = r.id then Row.ofChunk r.id c v else x) = xs := by
    intro xs hxs
    conv_rhs => rw [← List.map_id xs]
    refine List.map_congr_left fun x hx => if_neg fun hid => hids.1 ?_
    rw [← hid]
    exact List.mem_map_of_mem (hxs hx)
  refine ⟨before, after, hrows, ?_, hids.1⟩
  show s.rows.map _ = _
  rw [hrows, List.map_append, List.map_cons, if_pos rfl,
    hkeep before (List.subset_append_left _ _), hkeep after (List.subset_append_right _ _)]

theorem Indexed.changeRow (h : s.Indexed) (hs : s.Sound) {r : Row} (hr : r ∈ s.rows) (c : Chunk)
    (v : Vec) : (s.changeRow r c v).Indexed := by
  intro log hlog
  obtain ⟨old, hold, rfl⟩ := Option.map_eq_some_iff.mp hlog
  obtain ⟨before, after, hrows, hnext, hother⟩ := hs.changeRow_rows hr c v
  obtain ⟨hlegal, hperm⟩ := h old hold
  have hmiddle : ∀ x : Row, (before ++ x :: after).Perm (x :: (before ++ after)) :=
    fun _ => List.perm_middle
  rw [hrows] at hperm
  rw [hnext]
  -- 古い中身を消すとほかの行だけが残り、そこへ同じ番号で足す
  obtain ⟨hdropped, hrest⟩ := legal_delete hlegal (hperm.trans ((hmiddle r).map (·.document)))
  have hadded := legal_insert hdropped hrest (d := (Row.ofChunk r.id c v).document) <| by
    rw [List.map_map]
    exact hother
  rw [List.append_assoc] at hadded
  refine ⟨hadded.1, hadded.2.trans ((List.perm_append_singleton _ _).trans ?_)⟩
  exact ((hmiddle (Row.ofChunk r.id c v)).map (·.document)).symm

theorem Indexed.dropFile (h : s.Indexed) (path : String) : (s.dropFile path).Indexed := by
  intro log hlog
  obtain ⟨old, hold, rfl⟩ := Option.map_eq_some_iff.mp hlog
  obtain ⟨hlegal, hperm⟩ := h old hold
  -- 行を、ファイルの行とほかの行に分ける
  have hsplit := (List.filter_append_perm (inFile path) s.rows).symm.map (·.document)
  rw [List.map_append] at hsplit
  have hdropped := legal_deletes _ hlegal (hperm.trans hsplit)
  rwa [List.map_map] at hdropped

theorem Indexed.prepare (h : s.Indexed) (hs : s.Sound) (n : Nat) : (s.prepare n).Indexed := by
  cases hd : s.dimensions with
  | some d =>
    rw [prepare_of_some hd]
    exact h
  | none =>
    intro log hlog
    rw [rows_prepare]
    unfold Store.prepare at hlog
    rw [hd] at hlog
    simp only [] at hlog
    split at hlog
    · -- 最初の書き込みで、いまの行から作り直す
      cases hlog
      have hlegal : Keyword.Legal (s.keywords.getD []) := by
        cases hk : s.keywords with
        | none => exact .nil
        | some old => exact (h old hk).1
      refine ⟨hlegal.snoc ?_, ?_⟩
      · show ((s.rows.map _).map _).Nodup
        rw [List.map_map]
        exact hs.nodup_ids
      · rw [Keyword.documents_append]
        exact List.Perm.refl _
    · exact h log hlog

theorem kept_indexed : Kept Indexed where
  prepare := fun hs h n => h.prepare hs n
  dropFile := fun _ h path => h.dropFile path
  put := by
    intro s hs h c v _ _
    unfold Store.put
    split
    · next r hfind => exact h.changeRow hs (List.mem_of_find?_eq_some hfind) c v
    · exact h.addRow hs c v

/-- **操作の一つずつが保つ。** -/
theorem current_apply (hs : s.Sound) (h : s.Encoded ∧ s.Indexed) (op : Operation) :
    (op.apply s).Encoded ∧ (op.apply s).Indexed := by
  obtain ⟨hencoded, hindexed⟩ := h
  cases op with
  | insert chunks =>
    exact ⟨(kept_encoded.write hs hencoded none chunks).2,
      (kept_indexed.write hs hindexed none chunks).2⟩
  | replaceFile path chunks =>
    exact ⟨(kept_encoded.write hs hencoded (some path) chunks).2,
      (kept_indexed.write hs hindexed (some path) chunks).2⟩
  | deleteFile path => exact ⟨kept_encoded.dropFile hs hencoded path, hindexed.dropFile path⟩
  | recordFile path hash => exact ⟨hencoded, hindexed⟩
  | clear => exact ⟨nofun, nofun⟩
  | reopen lexical => exact ⟨hencoded, hindexed⟩

/-- **得られる保存先では、行は断片を列に直したもので、索引はいまの行を指す。** -/
theorem Reachable.current (h : s.Reachable) : s.Encoded ∧ s.Indexed := by
  induction h with
  | empty lexical => exact ⟨nofun, nofun⟩
  | step h op ih => exact current_apply h.sound ih op

/-! ## 語の検索 -/

theorem Encoded.terms_eq (h : s.Encoded) {r : Row} (hr : r ∈ s.rows) :
    r.terms = " ".intercalate (Identifier.allTerms r.text) := by
  obtain ⟨c, v, heq⟩ := h r hr
  rw [heq]
  rfl

theorem Sound.find?_id (hs : s.Sound) {x : Row} (hx : x ∈ s.rows) :
    s.rows.find? (fun r => r.id == x.id) = some x := by
  cases hfind : s.rows.find? (fun r => r.id == x.id) with
  | none => exact absurd (List.find?_eq_none.mp hfind x hx) (by simp)
  | some y =>
    have hid : y.id = x.id := by simpa using List.find?_some hfind
    rw [hs.row_eq hx (List.mem_of_find?_eq_some hfind) hid]

theorem Sound.filterMap_find? (hs : s.Sound) : ∀ {xs : List Row}, (∀ x ∈ xs, x ∈ s.rows) →
    (xs.map (·.id)).filterMap (fun id => s.rows.find? fun r => r.id == id) = xs
  | [], _ => rfl
  | x :: xs, h => by
    have hfirst := hs.find?_id (h x List.mem_cons_self)
    have hrest := hs.filterMap_find? fun y hy => h y (List.mem_cons_of_mem x hy)
    rw [List.map_cons, List.filterMap_cons, hfirst, hrest]

variable {F : Keyword.FullText} {hits : Keyword.Hits}

/-- 語の索引で見つかるのは、語に合う行の番号である。 -/
theorem Indexed.search_perm (hF : Keyword.ExternalContent F hits) (h : s.Indexed)
    (hencoded : s.Encoded) {log : List Keyword.Command} (hlog : s.keywords = some log)
    {query : String} (hne : Keyword.expression query ≠ "") :
    ∃ ids, F.search log (Keyword.expression query) = .ok ids
      ∧ ids.Perm ((s.rows.filter fun r => Keyword.matchesText hits query r.text).map (·.id)) := by
  obtain ⟨hlegal, hperm⟩ := h log hlog
  obtain ⟨ids, hids, hanswer⟩ := hF.search_expression hlegal hne
  refine ⟨ids, hids, hanswer.trans ?_⟩
  have hmatch : s.rows.filter (fun r => hits (Keyword.expression query) r.text r.terms)
      = s.rows.filter fun r => Keyword.matchesText hits query r.text := by
    refine List.filter_congr fun r hr => ?_
    unfold Keyword.matchesText
    rw [hencoded.terms_eq hr, bne_iff_ne.mpr hne, Bool.true_and]
  have hfound := (hperm.filter fun d => hits (Keyword.expression query) d.text d.terms).map (·.row)
  simp only [List.filter_map, List.map_map, Function.comp_def] at hfound
  rw [← hmatch]
  exact hfound

/-- **語の索引があれば、語に合う行をちょうど一つずつ返す。** -/
theorem keywordRows_perm (hF : Keyword.ExternalContent F hits) (h : s.Reachable)
    (hk : s.hasKeywords = true) (query : String) {limit : Nat} (hlimit : s.rows.length ≤ limit) :
    ∃ rows, s.keywordRows F query limit = .ok rows
      ∧ rows.Perm (s.rows.filter fun r => Keyword.matchesText hits query r.text) := by
  have hs := h.sound
  obtain ⟨hencoded, hindexed⟩ := h.current
  obtain ⟨log, hlog⟩ := Option.isSome_iff_exists.mp hk
  unfold keywordRows askKeywords
  rw [hlog]
  simp only []
  by_cases hne : Keyword.expression query = ""
  · rw [if_pos hne]
    have hnone : s.rows.filter (fun r => Keyword.matchesText hits query r.text) = [] := by
      refine List.filter_eq_nil_iff.mpr fun r _ => ?_
      unfold Keyword.matchesText
      simp [hne]
    exact ⟨[], rfl, hnone ▸ List.Perm.refl _⟩
  · rw [if_neg hne]
    obtain ⟨ids, hids, hanswer⟩ := hindexed.search_perm hF hencoded hlog hne
    rw [hids]
    refine ⟨_, rfl, ?_⟩
    -- 見つかった番号から行を引くと、同じ行に戻る
    have hall := hanswer.filterMap fun id => s.rows.find? fun r => r.id == id
    rw [hs.filterMap_find? fun x hx => (List.mem_filter.mp hx).1] at hall
    have hlength := hall.length_eq.trans_le ((List.length_filter_le _ _).trans hlimit)
    show (List.take limit _).Perm _
    rwa [List.take_of_length_le hlength]

theorem keywordSearch_eq {query : String} {limit : Nat} {rows : List Row}
    (h : s.keywordRows F query limit = .ok rows) :
    s.keywordSearch F query limit = .ok (rows.map (·.chunk)) := by
  unfold keywordSearch
  rw [h]
  rfl

/-- 語の索引のない保存先では、何も見つからない。 -/
theorem keywordSearch_of_keywords_none (hk : s.keywords = none) (F : Keyword.FullText)
    (query : String) (limit : Nat) : s.keywordSearch F query limit = .ok [] := by
  have hrows : s.keywordRows F query limit = .ok [] := by
    unfold keywordRows askKeywords
    rw [hk]
  exact keywordSearch_eq hrows

theorem keywordSearch_perm (hF : Keyword.ExternalContent F hits) (h : s.Reachable)
    (hk : s.hasKeywords = true) (query : String) {limit : Nat} (hlimit : s.rows.length ≤ limit) :
    ∃ found, s.keywordSearch F query limit = .ok found
      ∧ found.Perm ((s.rows.map (·.chunk)).filter fun c =>
        Keyword.matchesText hits query c.text) := by
  obtain ⟨rows, hrows, hperm⟩ := keywordRows_perm hF h hk query hlimit
  refine ⟨_, keywordSearch_eq hrows, ?_⟩
  simp only [List.filter_map, Function.comp_def]
  exact hperm.map (·.chunk)

/-! ## 作り直した保存先 -/

@[simp] theorem hasKeywords_put (s : Store) (c : Chunk) (v : Vec) :
    (s.put c v).hasKeywords = s.hasKeywords := by
  unfold put hasKeywords
  split <;> exact Option.isSome_map ..

@[simp] theorem hasKeywords_putAll (items : List (Chunk × Vec)) : ∀ s : Store,
    (s.putAll items).hasKeywords = s.hasKeywords := by
  induction items with
  | nil => exact fun _ => rfl
  | cons i items ih => exact fun s => (ih (s.put i.1 i.2)).trans (hasKeywords_put s i.1 i.2)

/-- 書き込める用意をした空の保存先には、語の索引がある。 -/
theorem hasKeywords_prepareFor {u : Store} {items : List (Chunk × Vec)} (hne : items ≠ [])
    (h : (empty true).prepareFor items = .ok u) : u.hasKeywords = true := by
  rcases prepareFor_eq_ok h with ⟨hnil, -⟩ | ⟨n, -, -, rfl⟩
  · exact absurd hnil hne
  · rfl

theorem Sound.storable_embedded (hs : s.Sound) :
    storable (s.rows.map Row.embedded) = s.rows.map fun r => (r.embedded, r.vector) := by
  unfold storable
  rw [List.filterMap_map, ← List.filterMap_eq_map]
  refine List.filterMap_congr fun r hr => ?_
  have hne : (!r.vector.isEmpty) = true := by simpa using (hs.shaped r hr).1
  show ((some r.vector).filter fun v => !v.isEmpty).map _ = some _
  rw [Option.filter_some, if_pos hne]
  rfl

/-- 行のベクトルはどれも同じ長さなので、空の保存先に断られない。 -/
theorem Sound.prepareFor_embedded (hs : s.Sound) :
    ∃ u, (empty true).prepareFor (storable (s.rows.map Row.embedded)) = .ok u := by
  refine ((prepareFor_cases _ _).resolve_left fun hodd => ?_).1
  have hmismatched := hodd.2
  rw [hs.storable_embedded, List.map_map] at hmismatched
  rcases hmismatched with ⟨m, hm, n, hn, hne⟩ | ⟨d, n, hd, -⟩
  · obtain ⟨r, hr, rfl⟩ := List.mem_map.mp hm
    obtain ⟨x, hx, rfl⟩ := List.mem_map.mp hn
    exact hne (Option.some.inj ((hs.shaped r hr).2.symm.trans (hs.shaped x hx).2))
  · cases hd

/-- 行の断片を、ベクトルを付けて空の保存先に書くと、同じ断片の行ができる。 -/
theorem insert_embedded (h : s.Reachable) : ∃ t : Store,
    (empty true).insert (s.rows.map Row.embedded) = .ok (s.rows.length, t) ∧ t.Reachable
    ∧ t.rows.map (·.chunk) = s.rows.map (·.chunk) ∧ (s.rows = [] → t.keywords = none)
    ∧ (s.rows ≠ [] → t.hasKeywords = true) := by
  have hs := h.sound
  have hstorable := hs.storable_embedded
  obtain ⟨u, hu⟩ := hs.prepareFor_embedded
  have hinsert : (empty true).insert (s.rows.map Row.embedded)
      = .ok (s.rows.length, u.putAll (storable (s.rows.map Row.embedded))) := by
    unfold Store.insert
    simp only []
    rw [hu]
    show Except.ok ((storable (s.rows.map Row.embedded)).length, _) = _
    rw [hstorable, List.length_map]
  refine ⟨_, hinsert, (Reachable.empty true).insert hinsert, ?_, fun hnil => ?_, fun hne => ?_⟩
  · have hnone : u.rows = [] := (prepareFor_frame hu).1
    -- 名前に重なりがないので、上書きは起こらず、どの断片も新しい行になる
    obtain ⟨added, hrows, hcontent, -⟩ := putAll_of_fresh (storable (s.rows.map Row.embedded)) u
      (by rw [hnone]; exact fun _ _ => nofun) (by rw [hstorable, List.map_map]; exact hs.distinct)
    rw [hrows, hnone, List.nil_append]
    have hfst := congrArg (List.map Prod.fst) hcontent
    rw [List.map_map, List.map_map, hstorable, List.map_map] at hfst
    exact hfst.trans (List.map_congr_left fun r _ => r.stored_embedded)
  · rw [hnil] at hu ⊢
    cases hu
    rfl
  · rw [hasKeywords_putAll]
    refine hasKeywords_prepareFor ?_ hu
    rw [hstorable]
    simpa using hne

/--
**語の検索は、いまの行のうち語に合うものを、ちょうど一つずつ返す。**

約束を守る全文索引があれば、行の数より多く求めた検索の答えは、いまの行のうち本文が語に合うもののすべてで、
同じ行を二度返さない。上書きした、入れ替えた、消した行の中身では見つからない。
だから、いまの行の断片を空の保存先に一度だけ書いて作り直した索引と、同じ断片を返す。
-/
theorem keywordSearch_current (hF : Keyword.ExternalContent F hits) (h : s.Reachable)
    (hk : s.hasKeywords = true) (query : String) {limit : Nat} (hlimit : s.rows.length ≤ limit) :
    ∃ rows, s.keywordRows F query limit = .ok rows
    ∧ s.keywordSearch F query limit = .ok (rows.map (·.chunk))
    ∧ rows.Perm (s.rows.filter fun r => Keyword.matchesText hits query r.text)
    ∧ (rows.map (·.chunk.id)).Nodup
    ∧ ∃ t : Store, (empty true).insert (s.rows.map Row.embedded) = .ok (s.rows.length, t)
      ∧ (s.rows ≠ [] → t.hasKeywords = true)
      ∧ ∃ found, t.keywordSearch F query limit = .ok found
        ∧ (rows.map (·.chunk)).Perm found := by
  obtain ⟨rows, hrows, hperm⟩ := keywordRows_perm hF h hk query hlimit
  refine ⟨rows, hrows, keywordSearch_eq hrows, hperm, ?_, ?_⟩
  · have hids := h.sound.distinct.sublist
      ((List.filter_sublist (p := fun r => Keyword.matchesText hits query r.text)).map _)
    exact (hperm.map (·.chunk.id)).nodup_iff.mpr hids
  · obtain ⟨t, hinsert, hreach, hchunks, hnone, hkeywords⟩ := insert_embedded h
    refine ⟨t, hinsert, hkeywords, ?_⟩
    have hlength : t.rows.length ≤ limit := by
      have hsame := congrArg List.length hchunks
      rw [List.length_map, List.length_map] at hsame
      exact hsame.trans_le hlimit
    by_cases hne : s.rows = []
    · -- 行がなければ作り直した索引はないが、どちらも何も返さない
      rw [hne, List.filter_nil] at hperm
      rw [hperm.eq_nil]
      exact ⟨[], keywordSearch_of_keywords_none (hnone hne) F query limit, List.Perm.refl _⟩
    · obtain ⟨found, hfound, hrebuilt⟩ :=
        keywordSearch_perm hF hreach (hkeywords hne) query hlength
      rw [hchunks] at hrebuilt
      refine ⟨found, hfound, (hperm.map (·.chunk)).trans (hrebuilt.trans ?_).symm⟩
      simp only [List.filter_map, Function.comp_def]
      exact List.Perm.refl _

/-- 一度の書き込みの中で `wide` に上書きされる断片。 -/
def overwritten : Chunk := { wide with text := "fn old() {}" }

/-- 書いた断片を上書きしてから、語の索引を作らない設定で開き直した保存先。 -/
def rewritten : Store :=
  [Operation.insert [overwritten, wide], .reopen false].foldl Operation.apply (.empty true)

/-- 上書きした本文の語では見つからず、いまの本文の語では一度だけ見つかる。 -/
theorem keywordSearch_current_rewritten :
    rewritten.keywordRows .builtin "old" 1 = .ok []
    ∧ rewritten.keywordRows .builtin "a" 1 = .ok rewritten.rows
    ∧ ∃ t : Store, (empty true).insert [wide] = .ok (1, t)
      ∧ ∃ found, t.keywordSearch .builtin "a" 1 = .ok found
        ∧ (rewritten.rows.map (·.chunk)).Perm found := by
  have hreach : rewritten.Reachable := (Reachable.empty true).run _
  have hrows : rewritten.rows = [Row.ofChunk 1 wide [1.0, 0.0]] := rfl
  have hlength : rewritten.rows.length ≤ 1 := by decide
  have hF := Keyword.externalContent_builtin
  obtain ⟨stale, hstale, -, hold, -⟩ := keywordSearch_current hF hreach rfl "old" hlength
  obtain ⟨fresh, hfresh, -, hnew, -, t, hinsert, -, found, hfound, hsame⟩ :=
    keywordSearch_current hF hreach rfl "a" hlength
  have hgone : Keyword.matchesText Keyword.builtinHits "old" wide.text = false := by decide +kernel
  have hkept : Keyword.matchesText Keyword.builtinHits "a" wide.text = true := by decide +kernel
  rw [hrows, List.filter_cons_of_neg (by rw [Bool.not_eq_true]; exact hgone)] at hold
  rw [hrows, List.filter_cons_of_pos (by exact hkept)] at hnew
  have hall : fresh = rewritten.rows := hnew.eq_singleton
  rw [hall] at hfresh hsame
  refine ⟨?_, hfresh, t, hinsert, found, hfound, hsame⟩
  rw [hstale, hold.eq_nil]

end Store

end CodeSearch
