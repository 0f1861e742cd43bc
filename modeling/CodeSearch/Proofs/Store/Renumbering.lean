import CodeSearch.Proofs.Sorting
import CodeSearch.Proofs.Store.Keywords
import Mathlib.Data.List.Basic

/-!
# 行の番号は答えに現れない

すべての行の番号を同じだけ進めても（`advance`）、保存先の操作も問い合わせも答えを変えない。番号は行の
順を決め、語の索引を行につなぐだけだからである。語の索引には、番号を進めた命令が送られる。索引の答えが
持っている行とその番号の順だけで決まるなら（`OrderOnly`）、進めた番号が答えになる。

全消去は番号だけを残す。だから、その後の答えは、作ったばかりの保存先の答えと同じである。

* `apply_advance` — 操作の後の保存先
* `keywordRows_advance` — 語の検索の答え
* `answer_advance` — 問い合わせの答え
* `clear_fresh` — 全消去の後は、作ったばかりの保存先と同じに答える
-/

namespace CodeSearch

/-! ## 番号を進めた保存先 -/

/-- 番号を `n` だけ進めた行。 -/
def Row.advance (n : Nat) (r : Row) : Row := { r with id := r.id + n }

namespace Store

variable {s : Store}

/-- すべての行の番号を `n` だけ進めた保存先。次に使う番号も、索引に送った番号も進む。 -/
def advance (n : Nat) (s : Store) : Store :=
  { s with
    rows := s.rows.map (Row.advance n)
    lastId := s.lastId + n
    keywords := s.keywords.map (List.map (Keyword.Command.renumber (· + n))) }

@[simp] theorem rows_advance (n : Nat) (s : Store) :
    (s.advance n).rows = s.rows.map (Row.advance n) := rfl

@[simp] theorem dimensions_advance (n : Nat) (s : Store) :
    (s.advance n).dimensions = s.dimensions := rfl

@[simp] theorem hashes_advance (n : Nat) (s : Store) : (s.advance n).hashes = s.hashes := rfl

@[simp] theorem hasKeywords_advance (n : Nat) (s : Store) :
    (s.advance n).hasKeywords = s.hasKeywords := Option.isSome_map ..

/-- 行から番号を除いて読むものは、番号を進めても変わらない。 -/
theorem map_advance {β : Type} {read : Row → β} (hread : ∀ n r, read (Row.advance n r) = read r)
    (n : Nat) (rows : List Row) : (rows.map (Row.advance n)).map read = rows.map read := by
  rw [List.map_map]
  exact List.map_congr_left fun r _ => hread n r

/-- 行から番号を除いて選べば、選んでから番号を進めても同じである。 -/
theorem filter_advance {p : Row → Bool} (hp : ∀ n r, p (Row.advance n r) = p r)
    (n : Nat) (rows : List Row) :
    (rows.map (Row.advance n)).filter p = (rows.filter p).map (Row.advance n) := by
  rw [List.filter_map]
  exact congrArg (List.map _) (List.filter_congr fun r _ => hp n r)

/-! ## 操作 -/

/-- 番号を進めた索引に、番号を進めた命令を送る。 -/
theorem tell_advance (n : Nat) (s : Store) (commands : List Keyword.Command) :
    (s.advance n).tell (commands.map (Keyword.Command.renumber (· + n)))
      = (s.tell commands).map (List.map (Keyword.Command.renumber (· + n))) := by
  unfold tell advance
  rw [Option.map_map, Option.map_map]
  refine congrArg (Option.map · s.keywords) (funext fun log => ?_)
  exact List.map_append.symm

theorem addRow_advance (n : Nat) (s : Store) (c : Chunk) (v : Vec) :
    (s.advance n).addRow c v = (s.addRow c v).advance n := by
  have hrow : Row.ofChunk (s.lastId + n + 1) c v = (Row.ofChunk (s.lastId + 1) c v).advance n := by
    rw [Nat.add_right_comm]
    rfl
  have hrows : s.rows.map (Row.advance n) ++ [Row.ofChunk (s.lastId + n + 1) c v]
      = (s.rows ++ [Row.ofChunk (s.lastId + 1) c v]).map (Row.advance n) := by
    rw [hrow, List.map_append]
    rfl
  have htell := tell_advance n s [.insert (Row.ofChunk (s.lastId + 1) c v).document]
  unfold addRow
  simp only [rows_advance]
  rw [show (s.advance n).lastId + 1 = s.lastId + n + 1 from rfl, hrows, hrow]
  exact congrArg (Store.mk _ _ _ _ _) htell

theorem changeRow_advance (n : Nat) (s : Store) (r : Row) (c : Chunk) (v : Vec) :
    (s.advance n).changeRow (r.advance n) c v = (s.changeRow r c v).advance n := by
  have hrows : (s.rows.map (Row.advance n)).map
        (fun x => if x.id = (r.advance n).id then Row.ofChunk (r.advance n).id c v else x)
      = (s.rows.map fun x => if x.id = r.id then Row.ofChunk r.id c v else x).map
        (Row.advance n) := by
    rw [List.map_map, List.map_map]
    refine List.map_congr_left fun x _ => ?_
    simp only [Function.comp_def, Row.advance, Nat.add_right_cancel_iff]
    split <;> rfl
  have htell := tell_advance n s
    [.delete r.document, .insert (Row.ofChunk r.id c v).document]
  unfold changeRow
  simp only [rows_advance]
  rw [hrows]
  exact congrArg (Store.mk _ _ _ _ _) htell

theorem put_advance (n : Nat) (s : Store) (c : Chunk) (v : Vec) :
    (s.advance n).put c v = (s.put c v).advance n := by
  have hfind : (s.rows.map (Row.advance n)).find? (fun r => r.name == c.id)
      = (s.rows.find? fun r => r.name == c.id).map (Row.advance n) := List.find?_map ..
  unfold put
  rw [rows_advance, hfind]
  cases s.rows.find? fun r => r.name == c.id with
  | none => exact addRow_advance n s c v
  | some r => exact changeRow_advance n s r c v

theorem putAll_advance (n : Nat) : ∀ (items : List (Chunk × Vec)) (s : Store),
    (s.advance n).putAll items = (s.putAll items).advance n
  | [], _ => rfl
  | i :: items, s => by
    have hrest := putAll_advance n items (s.put i.1 i.2)
    rw [← put_advance] at hrest
    exact hrest

theorem dropFile_advance (n : Nat) (s : Store) (path : String) :
    (s.advance n).dropFile path = (s.dropFile path).advance n := by
  have hin : ∀ n r, inFile path (Row.advance n r) = inFile path r := fun _ _ => rfl
  have hgone : ((s.rows.filter (inFile path)).map (Row.advance n)).map
        (fun r => Keyword.Command.delete r.document)
      = ((s.rows.filter (inFile path)).map fun r => .delete r.document).map
        (Keyword.Command.renumber (· + n)) := by
    rw [List.map_map, List.map_map]
    rfl
  unfold dropFile
  simp only [rows_advance]
  rw [filter_advance (p := fun r => !inFile path r) (fun _ _ => rfl), filter_advance hin, hgone,
    tell_advance]
  rfl

theorem prepare_advance (n : Nat) (s : Store) (m : Nat) :
    (s.advance n).prepare m = (s.prepare m).advance n := by
  have hdocuments : (s.rows.map (Row.advance n)).map (·.document)
      = (s.rows.map (·.document)).map (Keyword.Document.renumber (· + n)) := by
    rw [List.map_map, List.map_map]
    rfl
  cases hd : s.dimensions with
  | some d => rw [prepare_of_some hd, prepare_of_some (s := s.advance n) hd]
  | none =>
    unfold prepare advance
    simp only [hd, hdocuments]
    split
    · cases s.keywords <;> simp [Keyword.Command.renumber]
    · rfl

theorem prepareFor_advance (n : Nat) (s : Store) (items : List (Chunk × Vec)) :
    (s.advance n).prepareFor items = (s.prepareFor items).map (advance n) := by
  cases items with
  | nil => rfl
  | cons i rest =>
    -- 長さの確かめは、決まった長さだけを見る
    have hcheck : (s.advance n).checkLengths i.2.length (i :: rest)
        = s.checkLengths i.2.length (i :: rest) := rfl
    rw [prepareFor_cons, prepareFor_cons, hcheck]
    cases s.checkLengths i.2.length (i :: rest) with
    | error e => rfl
    | ok _ => exact congrArg Except.ok (prepare_advance n s i.2.length)

theorem vacated_advance (n : Nat) (s : Store) (replaced : Option String) :
    (s.advance n).vacated replaced = (s.vacated replaced).advance n := by
  cases replaced with
  | none => rfl
  | some path => exact dropFile_advance n s path

/-- 書き込みは、番号を進めても同じ結果になり、その後の番号も同じだけ進んでいる。 -/
theorem write_advance (n : Nat) (s : Store) (replaced : Option String) (chunks : List Chunk) :
    (s.advance n).write replaced chunks = (s.write replaced chunks).map id (advance n) := by
  have hprep := prepareFor_advance n s (storable chunks)
  rcases s.write_cases replaced chunks with ⟨e, he, hwrite⟩ | ⟨u, hu, hwrite⟩
  · rw [he] at hprep
    rcases (s.advance n).write_cases replaced chunks with ⟨e', he', hwrite'⟩ | ⟨u', hu', -⟩
    · rw [hprep] at he'
      cases he'
      rw [hwrite, hwrite']
      rfl
    · rw [hprep] at hu'
      cases hu'
  · rw [hu] at hprep
    rcases (s.advance n).write_cases replaced chunks with ⟨e', he', -⟩ | ⟨u', hu', hwrite'⟩
    · rw [hprep] at he'
      cases he'
    · rw [hprep] at hu'
      cases hu'
      rw [hwrite, hwrite', vacated_advance, putAll_advance]
      rfl

/-- **操作の後の番号も、同じだけ進んでいる。** -/
theorem apply_advance (n : Nat) (s : Store) (op : Operation) :
    op.apply (s.advance n) = (op.apply s).advance n := by
  cases op with
  | insert chunks => exact congrArg Prod.snd (write_advance n s none chunks)
  | replaceFile path chunks => exact congrArg Prod.snd (write_advance n s (some path) chunks)
  | deleteFile path => exact dropFile_advance n s path
  | recordFile path hash => rfl
  | clear => rfl
  | reopen lexical => rfl

/-! ## 問い合わせ -/

section Search

variable {α : Type} [Quantity α] (metric : Metric α)

theorem ensureReady_advance (n : Nat) (s : Store) (length : Nat) :
    (s.advance n).ensureReady length = s.ensureReady length := by
  unfold ensureReady
  rw [dimensions_advance, rows_advance, List.isEmpty_map]

theorem nearest_advance (n : Nat) (scored : List (α × Row)) :
    nearest (scored.map (Prod.map id (Row.advance n)))
      = (nearest scored).map (Prod.map id (Row.advance n)) := by
  unfold nearest
  rw [stableSort_map]
  simp only [Prod.map_fst, Prod.map_snd, id_eq, Row.advance, Nat.add_lt_add_iff_right]

theorem vectorSearch_advance (n : Nat) (s : Store) (query : Vec) (limit : Nat) (floor : α) :
    (s.advance n).vectorSearch metric query limit floor
      = s.vectorSearch metric query limit floor := by
  have hscored : distances metric query (s.rows.map (Row.advance n))
      = (distances metric query s.rows).map (Prod.map id (Row.advance n)) := by
    unfold distances
    rw [filter_advance (p := fun r => r.vector.length == query.length) (fun _ _ => rfl),
      List.map_map, List.map_map]
    rfl
  have hhits : ∀ scored : List (α × Row),
      (scored.map (Prod.map id (Row.advance n))).map hitOf = scored.map hitOf := by
    intro scored
    rw [List.map_map]
    rfl
  unfold vectorSearch
  simp only [ensureReady_advance, rows_advance]
  rw [hscored, nearest_advance, ← List.map_take, hhits]

/-- 進めた番号で引けば、進めた行が見つかる。 -/
theorem find?_advance (n : Nat) (rows : List Row) (id : Nat) :
    (rows.map (Row.advance n)).find? (fun r => r.id == id + n)
      = (rows.find? fun r => r.id == id).map (Row.advance n) := by
  rw [List.find?_map]
  refine congrArg (Option.map _) (congrArg (rows.find? ·) (funext fun r => ?_))
  simp [Row.advance]

/-- **語の索引が番号の順しか見ないなら、見つかる行の番号も同じだけ進む。** -/
theorem keywordRows_advance {F : Keyword.FullText} (hF : Keyword.OrderOnly F) (n : Nat)
    (hs : s.Indexed) (text : String) (limit : Nat) :
    (s.advance n).keywordRows F text limit
      = (s.keywordRows F text limit).map (List.map (Row.advance n)) := by
  have hmono : StrictMono (· + n) := fun _ _ h => Nat.add_lt_add_right h n
  unfold keywordRows advance
  cases hk : s.keywords with
  | none => rfl
  | some log =>
    have hlegal := (hs log hk).1
    -- 進めた命令を聞いた索引は、進めた番号を答える
    have hanswer := hF hmono hlegal (hlegal.renumber hmono.injective)
      (Keyword.documents_renumber hmono.injective log) (Keyword.expression text)
    simp only [Option.map_some, askKeywords]
    rw [hanswer]
    split
    · rfl
    · cases F.search log (Keyword.expression text) with
      | error detail => rfl
      | ok ids =>
        refine congrArg Except.ok ?_
        show (((ids.map (· + n)).filterMap _).take limit) = ((ids.filterMap _).take limit).map _
        rw [List.filterMap_map, List.map_take, List.map_filterMap]
        simp only [Function.comp_def, find?_advance]

theorem hybridSearch_advance {F : Keyword.FullText} (hF : Keyword.OrderOnly F) (n : Nat)
    (hs : s.Indexed) (text : String) (query : Vec) (limit : Nat) (floor : α) (k : Nat) :
    (s.advance n).hybridSearch F metric text query limit floor k
      = s.hybridSearch F metric text query limit floor k := by
  have hhits : ∀ rows : List Row, (rows.map (Row.advance n)).map (keywordHit metric query)
      = rows.map (keywordHit metric query) := map_advance (fun _ _ => rfl) n
  unfold hybridSearch
  simp only [vectorSearch_advance, hasKeywords_advance, keywordRows_advance hF n hs]
  cases s.keywordRows F text (doubled limit) with
  | error e => rfl
  | ok rows => simp only [Except.map, hhits]

end Search

theorem chunksOf_advance (n : Nat) (s : Store) (path : String) :
    (s.advance n).chunksOf path = s.chunksOf path := by
  unfold chunksOf
  rw [rows_advance, filter_advance fun _ _ => rfl, map_advance fun _ _ => rfl]

theorem files_advance (n : Nat) (s : Store) : (s.advance n).files = s.files := by
  unfold files
  rw [rows_advance, hashes_advance, map_advance fun _ _ => rfl]

/-! ## 操作と問い合わせの列 -/

/-- 保存先への問い合わせ。 -/
inductive Query (α : Type) where
  | vectorSearch (query : Vec) (limit : Nat) (floor : α)
  | keywordSearch (text : String) (limit : Nat)
  | hybridSearch (text : String) (query : Vec) (limit : Nat) (floor : α) (k : Nat)
  | chunksOf (path : String)
  | counts
  | dimensions
  | isReady
  | hasKeywords
  | files
  | hash? (path : String)

/-- 保存先の答え。 -/
inductive Answer (α : Type) where
  /-- 書いた、または消した数。 -/
  | count (result : Except Error Nat)
  | done
  | hits (result : Except Error (List (Hit α)))
  | chunks (result : Except Error (List Chunk))
  | counts (chunks files : Nat)
  | dimensions (length : Option Nat)
  | flag (value : Bool)
  | files (paths : List String)
  | hash (value : Option String)

/-- 保存先にさせること。 -/
inductive Command (α : Type) where
  | change (op : Operation)
  | ask (query : Query α)

section Replay

variable {α : Type} [Quantity α] (F : Keyword.FullText) (metric : Metric α)

/-- 操作の答え。 -/
def Operation.answer (s : Store) : Operation → Answer α
  | insert chunks => .count (s.write none chunks).1
  | replaceFile path chunks => .count (s.write (some path) chunks).1
  | deleteFile path => .count (.ok (s.deleteFile path).1)
  | recordFile _ _ | clear | reopen _ => .done

/-- 問い合わせの答え。 -/
def Query.answer (s : Store) : Query α → Answer α
  | vectorSearch query limit floor => .hits (s.vectorSearch metric query limit floor)
  | keywordSearch text limit => .chunks (s.keywordSearch F text limit)
  | hybridSearch text query limit floor k =>
    .hits (s.hybridSearch F metric text query limit floor k)
  | chunksOf path => .chunks (.ok (s.chunksOf path))
  | counts => .counts s.chunkCount s.fileCount
  | dimensions => .dimensions s.dimensions
  | isReady => .flag s.isReady
  | hasKeywords => .flag s.hasKeywords
  | files => .files s.files
  | hash? path => .hash (s.hash? path)

/-- 一つの答えと、その後の保存先。 -/
def respond (s : Store) : Command α → Answer α × Store
  | .change op => (op.answer s, op.apply s)
  | .ask query => (query.answer F metric s, s)

/-- 順に答えた答えの列と、その後の保存先。 -/
def replay (s : Store) : List (Command α) → List (Answer α) × Store
  | [] => ([], s)
  | c :: cs =>
    let (first, next) := respond F metric s c
    let (rest, last) := replay next cs
    (first :: rest, last)

omit [Quantity α] in
theorem operation_answer_advance (n : Nat) (s : Store) (op : Operation) :
    (op.answer (s.advance n) : Answer α) = op.answer s := by
  cases op with
  | insert chunks =>
    show Answer.count ((s.advance n).write none chunks).1 = _
    rw [write_advance]
    rfl
  | replaceFile path chunks =>
    show Answer.count ((s.advance n).write (some path) chunks).1 = _
    rw [write_advance]
    rfl
  | deleteFile path =>
    show Answer.count (.ok ((s.rows.map (Row.advance n)).filter (inFile path)).length) = _
    rw [filter_advance fun _ _ => rfl, List.length_map]
    rfl
  | recordFile path hash => rfl
  | clear => rfl
  | reopen lexical => rfl

variable {F} in
theorem query_answer_advance (hF : Keyword.OrderOnly F) (n : Nat) (hs : s.Indexed)
    (query : Query α) : query.answer F metric (s.advance n) = query.answer F metric s := by
  cases query with
  | vectorSearch query limit floor =>
    exact congrArg Answer.hits (vectorSearch_advance metric n s query limit floor)
  | keywordSearch text limit =>
    refine congrArg Answer.chunks ?_
    unfold keywordSearch
    rw [keywordRows_advance hF n hs]
    cases s.keywordRows F text limit with
    | error e => rfl
    | ok rows => exact congrArg Except.ok (map_advance (fun _ _ => rfl) n rows)
  | hybridSearch text query limit floor k =>
    exact congrArg Answer.hits (hybridSearch_advance metric hF n hs text query limit floor k)
  | chunksOf path => exact congrArg (fun cs => Answer.chunks (.ok cs)) (chunksOf_advance n s path)
  | counts =>
    show Answer.counts _ _ = Answer.counts _ _
    unfold chunkCount fileCount
    rw [rows_advance, List.length_map, map_advance fun _ _ => rfl]
  | dimensions => rfl
  | isReady =>
    refine congrArg Answer.flag ?_
    unfold isReady
    rw [rows_advance, List.isEmpty_map]
  | hasKeywords => exact congrArg Answer.flag (hasKeywords_advance n s)
  | files => exact congrArg Answer.files (files_advance n s)
  | hash? path => rfl

variable {F} in
/-- 番号を進めても答えは変わらず、番号はずっと同じだけ進んでいる。 -/
theorem replay_advance (hF : Keyword.OrderOnly F) (n : Nat) : ∀ (cs : List (Command α))
    {s : Store}, s.Reachable →
    replay F metric (s.advance n) cs = (replay F metric s cs).map id (advance n)
  | [], _, _ => rfl
  | .change op :: cs, s, hs => by
    have hrest := replay_advance hF n cs (hs.step op)
    rw [← apply_advance] at hrest
    show ((op.answer (s.advance n) : Answer α) :: _, _) = _
    rw [operation_answer_advance, hrest]
    rfl
  | .ask query :: cs, s, hs => by
    show (query.answer F metric (s.advance n) :: _, _) = _
    rw [query_answer_advance metric hF n hs.current.2, replay_advance hF n cs hs]
    rfl

variable {F} in
/--
**全消去の後は、作ったばかりの保存先と同じに答える。**

語の索引の答えが、持っている行とその番号の順だけで決まるなら、どんな保存先でも、全消去の後に操作と
問い合わせをどう続けても、答えは誤りも含めて一つずつ、同じ設定で作ったばかりの保存先の答えに等しい。
その間、中身の違いは行の番号だけで、番号は全消去の前の続きから数えた分だけ進んでいる。
-/
theorem clear_fresh (hF : Keyword.OrderOnly F) (s : Store) (cs : List (Command α)) :
    (replay F metric s.clear cs).1 = (replay F metric (.empty s.lexical) cs).1
    ∧ (replay F metric s.clear cs).2
      = (replay F metric (.empty s.lexical) cs).2.advance s.lastId := by
  have hclear : s.clear = (empty s.lexical).advance s.lastId := by
    show ({ lexical := s.lexical, lastId := s.lastId } : Store)
      = { lexical := s.lexical, lastId := 0 + s.lastId }
    rw [Nat.zero_add]
  rw [hclear, replay_advance metric hF _ cs (.empty s.lexical)]
  exact ⟨rfl, rfl⟩

end Replay

/-- 一つの断片を書いて消した保存先でも、書き直した断片は同じ語の検索で同じに見つかる。番号だけが二つ目である。 -/
theorem clear_fresh_refilled :
    (replay .builtin Vec.metric ((empty true).putAll [(wide, [1.0, 0.0])]).clear
        [.change (.insert [wide]), .ask (.keywordSearch "a" 1)]).1
      = (replay .builtin Vec.metric (empty true)
        [.change (.insert [wide]), .ask (.keywordSearch "a" 1)]).1
    ∧ (replay .builtin Vec.metric ((empty true).putAll [(wide, [1.0, 0.0])]).clear
        [.change (.insert [wide]), .ask (.keywordSearch "a" 1)]).2.rows.map (·.id) = [2] :=
  ⟨(clear_fresh Vec.metric Keyword.orderOnly_builtin
    ((empty true).putAll [(wide, [1.0, 0.0])]) _).1, rfl⟩

end Store

end CodeSearch
