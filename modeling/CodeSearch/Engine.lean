import CodeSearch.Chunking.Pool
import CodeSearch.Embedding.Generation
import CodeSearch.Store.Search
import CodeSearch.Total

/-!
# 索引づけと検索

切り方・埋め込み・保存をつなぐ。索引づけは次の順に進む。

1. 見つからなくなったファイルを消し、内容の変わらないファイルを除く。
2. 提供元に届くか、モデルが使えるかを確かめる。
3. ファイルを断片に切り、断片を埋め込む。
4. すべての断片が済んだファイルだけ、行を入れ替える。

失敗した断片のないファイルだけが要約の記録を得るので、次の索引づけはやり残しだけをやり直す。
途中でやめたファイルには触らない。致命的な失敗は、どのファイルの行にも触れる前に起きる。
-/

namespace CodeSearch

/-- 索引づけと検索の状態。 -/
structure Engine where
  settings : Settings := {}
  registry : Registry
  size : BatchSize
  store : Store
  /-- 内容の要約の求め方。 -/
  digest : String → String

/-- 索引づけの結果。 -/
structure IndexSummary where
  success : Bool := false
  totalFiles : Nat := 0
  totalChunks : Nat := 0
  successfulChunks : Nat := 0
  failedChunks : Nat := 0
  errors : List String := []
  cancelled : Bool := false
  deriving DecidableEq, Repr

/-- 検索の選び方。 -/
structure SearchOptions (α : Type) where
  limit : Nat
  minSimilarity : α
  /-- 語による検索も合わせるか。 -/
  hybrid : Bool
  /-- 点を付け直すか。 -/
  rerank : Bool
  fusionConstant : Nat

/-- 設定にある選び方。 -/
def SearchOptions.ofSettings (s : SearchSettings) : SearchOptions Float :=
  { limit := s.limit, minSimilarity := s.minSimilarity, hybrid := s.hybrid, rerank := s.rerank,
    fusionConstant := s.fusionConstant }

/-- 検索の答え。 -/
structure SearchSummary (α : Type) where
  query : String
  results : List (Hit α) := []
  totalResults : Nat := 0
  /-- 検索できるものがあったか。 -/
  indexReady : Bool := true
  error : Option String := none

namespace Engine

variable {σ : Type}

/-- 設定と保存先から作る。文法の保管は空から始まる。 -/
def new (settings : Settings) (loader : Loader) (digest : String → String) (store : Store) :
    Engine :=
  { settings, registry := .ofLoader loader, size := .ofNat settings.embedding.batchSize, store,
    digest }

/-- 断片の切り方。 -/
def limits (e : Engine) : ChunkLimits :=
  { budget := e.settings.chunker.tokenBudget, window := e.settings.chunker.fallbackWindow }

/-- ファイルを設定の数までの作業者で切った結果と、その後の保管。 -/
def chunked (e : Engine) (schedule : List Nat) (files : List SourceFile) :
    List ChunkOutcome × Registry :=
  Chunking.chunkThrough e.limits e.settings.chunker.maxWorkers schedule e.registry files

/-- 提供元に届き、モデルが使えることを確かめる。 -/
def preflight (p : Provider σ) (s : Session σ) : Except Error Unit × Session σ :=
  match p.connected s with
  | (false, s) =>
    (.error (.providerUnavailable ("cannot connect to the " ++ p.name ++ " embedding provider")), s)
  | (true, s) =>
    match p.modelAvailable s with
    | (false, s) =>
      (.error (.providerUnavailable
        ("model `" ++ p.model ++ "` is not available from " ++ p.name)), s)
    | (true, s) => (.ok (), s)

/-! ## ファイルごとの勘定 -/

/-- 同じ名前の最後のものの値。 -/
def lastOf {β : Type} (entries : List (String × β)) (name : String) : Option β :=
  entries.reverse.lookup name

/-- ファイルを切れなかった理由の一覧。 -/
def chunkErrors (files : List SourceFile) (outcomes : List ChunkOutcome) : List String :=
  (files.zip outcomes).filterMap fun (f, o) =>
    o.error.map fun reason =>
      f.path ++ ": " ++ reason ++ " (indexed with " ++ o.method.name ++ " chunking)"

/-- ファイルごとの断片の数。 -/
def chunkCounts (files : List SourceFile) (outcomes : List ChunkOutcome) : List (String × Nat) :=
  (files.zip outcomes).map fun (f, o) => (f.path, o.chunks.length)

/-- 埋め込めなかった断片の一覧。 -/
def chunkFailures (failed : List FailedChunk) : List String :=
  failed.map fun f => f.chunk.id ++ ": " ++ f.reason

/-- ファイルの断片のうち、埋め込めなかったものの数。 -/
def failuresIn (failed : List FailedChunk) (path : String) : Nat :=
  (failed.filter fun f => f.chunk.path == path).length

/-! ## 保存 -/

/-- 保存の進み具合。 -/
structure Storing where
  store : Store
  /-- まだ保存していない断片。 -/
  waiting : List Chunk
  stored : Nat := 0
  reports : List Progress := []

/-- 一つのファイルを保存する。断片が出揃っていなければ触らない。 -/
def storeFile (counts : List (String × Nat)) (hashes : List (String × String))
    (failed : List FailedChunk) (total : Nat) (st : Storing) (position : Nat) (path : String) :
    Except Error Storing :=
  let ready := st.waiting.filter fun c => c.path == path
  let waiting := st.waiting.filter fun c => c.path != path
  let failures := failuresIn failed path
  if ready.length + failures < (lastOf counts path).getD 0 then .ok { st with waiting }
  else
    (st.store.replaceFile path ready).map fun (n, store) =>
      { store :=
          if failures = 0 then ((lastOf hashes path).map (store.recordFile path)).getD store
          else store
        waiting
        stored := st.stored + n
        reports := st.reports ++
          [{ phase := .storing, current := position, total, message := path }] }

/-- ファイルを順に保存し、どこまで進んだかも返す。`position` は先頭のファイルの番号で、
1 から数える。 -/
def storeFiles (counts : List (String × Nat)) (hashes : List (String × String))
    (failed : List FailedChunk) (total : Nat) (st : Storing) (position : Nat) :
    List SourceFile → Except Error Unit × Storing
  | [] => (.ok (), st)
  | f :: fs =>
    match storeFile counts hashes failed total st position f.path with
    | .error e => (.error e, st)
    | .ok st => storeFiles counts hashes failed total st (position + 1) fs

/-- 埋め込んだベクトルの長さが、決まった長さと合うか。 -/
def checkDimensions (store : Store) (embedded : List Chunk) : Except Error Unit :=
  match store.dimensions, (Store.storable embedded).head? with
  | some d, some (_, v) => if d = v.length then .ok () else .error (.schemaMismatch d v.length)
  | _, _ => .ok ()

/-! ## 索引づけ -/

/-- 索引づけの一部始終。 -/
structure IndexRun (σ : Type) where
  result : Except Error IndexSummary
  reports : List Progress
  engine : Engine
  session : Session σ

/-- 埋め込みの成果を保存して、結果をまとめる。 -/
def finish (e : Engine) (files : List SourceFile) (hashes : List (String × String))
    (outcomes : List ChunkOutcome) (g : Generation) (reports : List Progress) (s : Session σ) :
    IndexRun σ :=
  match checkDimensions e.store g.embedded with
  | .error err => { result := .error err, reports, engine := e, session := s }
  | .ok _ =>
    let (stored, st) := storeFiles (chunkCounts files outcomes) hashes g.failed files.length
      { store := e.store, waiting := g.embedded } 1 files
    let total := sumOf (outcomes.map (·.chunks.length))
    let done : List Progress :=
      [{ phase := .done, current := st.stored, total, message := "indexing finished" }]
    { result := stored.map fun _ =>
        { success := g.failed.isEmpty && !g.cancelled
          totalFiles := files.length
          totalChunks := total
          successfulChunks := st.stored
          failedChunks := g.failed.length
          errors := chunkErrors files outcomes ++ chunkFailures g.failed
          cancelled := g.cancelled }
      reports := reports ++ st.reports ++ (if stored.toBool then done else [])
      engine := { e with store := st.store }
      session := s }

/-- 変わったファイルを切り、埋め込み、保存する。`hashes` はファイルの内容の要約、`schedule` は
ファイルを切る作業者の手番の列である。 -/
def run (p : Provider σ) (stop : Nat → Bool) (schedule : List Nat) (e : Engine)
    (files : List SourceFile) (hashes : List (String × String)) (s : Session σ) : IndexRun σ :=
  if files.isEmpty then
    { result := .ok { success := true }
      reports := [{ phase := .done, current := 0, total := 0, message := "index is up to date" }]
      engine := e, session := s }
  else
    let n := files.length
    let checking : List Progress :=
      [{ phase := .preflight, current := 0, total := 1, message := "checking embedding provider" }]
    match preflight p s with
    | (.error err, s) => { result := .error err, reports := checking, engine := e, session := s }
    | (.ok _, s) =>
      let (outcomes, registry) := e.chunked schedule files
      let chunks := outcomes.flatMap (·.chunks)
      let e := { e with registry }
      let chunking := checking ++
        [ { phase := .chunking, current := 0, total := n, message := "chunking files" },
          { phase := .chunking, current := n, total := n,
            message := toString chunks.length ++ " chunks from " ++ toString n ++ " files" } ]
      let generated := Embedding.generate p e.settings.embedding stop e.size chunks s
      let e := { e with size := generated.size }
      let reports := chunking ++ generated.reports
      match generated.result with
      | .error err => { result := .error err, reports, engine := e, session := generated.session }
      | .ok g => finish e files hashes outcomes g reports generated.session

/-- 見つからなくなったファイルを消す。 -/
def sweep (store : Store) (files : List SourceFile) : Store :=
  (store.files.filter fun path => files.all fun f => f.path != path).foldl
    (fun st path => (st.deleteFile path).2) store

/-- 記録した要約と内容が違うファイル。 -/
def changed (digest : String → String) (store : Store) (files : List SourceFile) :
    List SourceFile :=
  files.filter fun f => store.hash? f.path != some (digest f.text)

/-- ファイルの内容の要約。 -/
def hashesOf (digest : String → String) (files : List SourceFile) : List (String × String) :=
  files.map fun f => (f.path, digest f.text)

/-- 見つかったすべてのファイルに索引を合わせる。`full` なら空にしてからやり直す。 -/
def index (p : Provider σ) (stop : Nat → Bool) (schedule : List Nat) (full : Bool) (e : Engine)
    (files : List SourceFile) (s : Session σ) : IndexRun σ :=
  let store := sweep (if full then e.store.clear else e.store) files
  let todo := changed e.digest store files
  let r := run p stop schedule { e with store } todo (hashesOf e.digest todo) s
  { r with result := r.result.map fun summary => { summary with totalFiles := files.length } }

/-- 一つのファイルをやり直す。切る作業者は一人である。 -/
def reindex (p : Provider σ) (e : Engine) (file : SourceFile) (s : Session σ) : IndexRun σ :=
  run p (fun _ => false) [] e [file] (hashesOf e.digest [file]) s

/-! ## 検索 -/

variable {α : Type} [Quantity α]

/-- 候補を選ぶ。点を付け直すなら倍の数をとる。 -/
def candidates (F : Keyword.FullText) (metric : Metric α) (o : SearchOptions α) (store : Store)
    (query : String) (v : Vec) : Except Error (List (Hit α)) :=
  let limit := if o.rerank then Store.doubled o.limit else o.limit
  if o.hybrid then store.hybridSearch F metric query v limit o.minSimilarity o.fusionConstant
  else store.vectorSearch metric v limit o.minSimilarity

/-- 候補を並べ直し、`limit` 個に切り、表示の点を付ける。 -/
def arrange (o : SearchOptions α) (query : String) (hits : List (Hit α)) : List (Hit α) :=
  Rank.display ((if o.rerank then Rank.rerank query hits else hits).take o.limit)

/-- 問い合わせに答える。致命的でない埋め込みの失敗は、答えに書く。 -/
def search (p : Provider σ) (F : Keyword.FullText) (metric : Metric α) (o : SearchOptions α)
    (e : Engine) (query : String) (s : Session σ) : Except Error (SearchSummary α) × Session σ :=
  if !e.store.isReady then
    (.ok { query, indexReady := false, error := some Error.indexNotReady.message }, s)
  else
    match Embedding.embedQuery p query s with
    | (.error err, s) =>
      (if err.isFatal then .error err else .ok { query, error := some err.message }, s)
    | (.ok v, s) =>
      ((candidates F metric o e.store query v).map fun hits =>
        let results := arrange o query hits
        { query, results, totalResults := results.length }, s)

end Engine

end CodeSearch
