import CodeSearch.Cli.Arguments
import CodeSearch.Cli.Checkup
import CodeSearch.Cli.Workspace
import CodeSearch.Digest
import CodeSearch.Embedding.Service
import CodeSearch.Files.IgnoreWalk
import CodeSearch.Keyword.Index

/-!
# 命令を実行する

引数を読み、設定を読み、作業する場所に命令を施す。終わり方は三つある。
引数の誤りは 2、それ以外の失敗は 1、成功は 0 である。

外の世界は `Surroundings` として受け取る。HTTP の相手の状態だけは、命令が進めて返す。
-/

namespace CodeSearch.Cli

/-- 版。 -/
def version : String := "0.1.0"

/-- 設定のファイル。 -/
def configFile : String := ".sift.toml"

/-- 新しく作る設定。既定の値を注釈として見せる。 -/
def defaultConfig : String :=
  "# Sift configuration

[chunker]
# token_budget = 1500
# max_workers = 4
# fallback_window_lines = 60

[embedding]
# provider = \"ollama\"            # \"ollama\", \"voyage\" or \"openai\"
# model = \"nomic-embed-text\"
# base_url = \"http://localhost:11434\"
# api_key = \"...\"                # or VOYAGE_API_KEY / OPENAI_API_KEY
# batch_size = 16
# max_retries = 3
# inter_batch_delay_ms = 100
# item_delay_ms = 50
# segment_identifiers = true
# requests_per_minute = 300
# tokens_per_minute = 1000000

[search]
# limit = 10
# min_similarity = 0.3
# hybrid = true
# rerank = true
# rrf_k = 60

[index]
# path = \".sift/index.db\"
# lexical = true
"

/-- 命令のないときの文。 -/
def welcome : String :=
  Report.paragraph
    [ "sift v" ++ version ++ " - semantic code search", "",
      "Quick start:",
      "  sift init                 Create a .sift.toml config file",
      "  sift index                Index the current directory",
      "  sift search '<query>'     Search by meaning", "",
      "Run 'sift <command> --help' for details." ]

/-- 使い方。 -/
def usage : String :=
  Report.paragraph
    [ "Usage: sift [OPTIONS] [COMMAND]", "",
      "Commands:",
      "  init    Create a default .sift.toml configuration file",
      "  index   Index (or incrementally re-index) a directory",
      "  search  Search the index with a natural-language query",
      "  stats   Show index statistics",
      "  clear   Delete everything in the index",
      "  doctor  Check configuration, provider and index" ]

/-- 命令の外の世界。 -/
structure Surroundings (σ : Type) where
  environment : String → Option String := fun _ => none
  transport : Http.Transport σ
  loader : Loader := Loader.builtin
  fullText : Keyword.FullText := .builtin
  digest : String → String := Digest.hex
  walk : Walker := .builtin
  /-- ファイルを切る作業者の手番の列。 -/
  schedule : List Nat := []
  /-- 見つけたファイルの構文木。 -/
  trees : FoundFile → Trees := fun _ _ _ => none
  measures : Report.Measures := {}

/-- 命令の答え。 -/
structure Answer where
  code : Nat := 0
  output : String := ""
  /-- 失敗の知らせ。 -/
  notice : String := ""

namespace Answer

/-- 文を返す。 -/
def text (output : String) : Answer := { output }

/-- 失敗を知らせる。 -/
def failure (e : Error) : Answer := { code := 1, notice := e.message }

/-- 文か JSON を返す。 -/
def shown (format : OutputFormat) (text : String) (json : Json) : Answer :=
  match format with
  | .text => { output := text }
  | .json => { output := Json.pretty json ++ "\n" }

end Answer

/-- 設定を読む。指定がなければ、置かれた設定か、既定の設定を使う。 -/
def loadConfig (w : Workspace) : Option String → Except Error Settings
  | some path => (w.readText path).bind Settings.ofToml
  | none =>
    if w.contains configFile then (w.readText configFile).bind Settings.ofToml else .ok {}

/-- 索引のパス。 -/
def indexPath (root : String) (s : Settings) : String := Path.join root s.index.path

/-- 設定を作る。すでにあれば作らない。 -/
def runInit (w : Workspace) : Answer × Workspace :=
  if w.contains configFile then ({ code := 1, notice := configFile ++ " already exists" }, w)
  else
    (.text ("Created " ++ configFile ++ " with default configuration\n"),
      w.writeText configFile defaultConfig)

variable {σ : Type}

/-- 見つけたファイルに構文木を添える。 -/
def sourceFile (world : Surroundings σ) (f : FoundFile) : SourceFile :=
  { path := f.path, text := f.text, language := f.language, trees := world.trees f }

/-- 索引づけの答え。途中でやめたのではない失敗は 1 で終わる。 -/
def indexAnswer (world : Surroundings σ) (format : OutputFormat) (s : IndexSummary) : Answer :=
  { Answer.shown format (Report.indexText world.measures s) (Report.indexJson world.measures s) with
    code := if s.success || s.cancelled then 0 else 1 }

/-- ディレクトリに索引を付ける。 -/
def runIndex (world : Surroundings σ) (format : OutputFormat) (s : Settings) (root : String)
    (full : Bool) (w : Workspace) (wire : σ) : Answer × Workspace × σ :=
  match Discovery.discover world.walk w.tree root with
  | .error e => (.failure e, w, wire)
  | .ok files =>
    match Service.ofSettings world.environment s.embedding with
    | .error e => (.failure e, w, wire)
    | .ok service =>
      match w.openIndex (indexPath root s) s.index.lexical with
      | .error e => (.failure e, w, wire)
      | .ok (place, store, w) =>
        let run := Engine.index (service.provider world.transport) (fun _ => false)
          world.schedule full (Engine.new s world.loader world.digest store)
          (files.map (sourceFile world)) (service.session wire)
        let answer := match run.result with
          | .ok summary => indexAnswer world format summary
          | .error e => .failure e
        (answer, w.putIndex place run.engine.store, run.session.peer.wire)

/-- 索引を探す。索引がなければ、作らずに空の索引を探す。 -/
def runSearch (world : Surroundings σ) (format : OutputFormat) (s : Settings) (root query : String)
    (o : SearchOptions Float) (w : Workspace) (wire : σ) : Answer × Workspace × σ :=
  let path := indexPath root s
  let opened :=
    if w.contains path then (w.openIndex path s.index.lexical).map (·.2)
    else .ok (Store.empty s.index.lexical, w)
  match opened with
  | .error e => (.failure e, w, wire)
  | .ok (store, w) =>
    match Service.ofSettings world.environment s.embedding with
    | .error e => (.failure e, w, wire)
    | .ok service =>
      let (result, session) := Engine.search (service.provider world.transport) world.fullText
        Vec.metric o (Engine.new s world.loader world.digest store) query (service.session wire)
      let answer := match result with
        | .ok summary =>
          { Answer.shown format (Report.searchText world.measures summary)
              (Report.searchJson world.measures summary) with
            notice := (summary.error.map ("search failed: " ++ ·)).getD "" }
        | .error e => .failure e
      (answer, w, session.peer.wire)

/-- 索引の大きさを見せる。 -/
def runStats (world : Surroundings σ) (format : OutputFormat) (s : Settings) (root : String)
    (w : Workspace) : Answer × Workspace :=
  let path := indexPath root s
  if w.contains path then
    match w.openIndex path s.index.lexical with
    | .error e => (.failure e, w)
    | .ok (_, store, w) =>
      (.shown format (Report.statsText world.measures path store)
        (Report.statsJson world.measures path store), w)
  else
    (.shown format ("No index at " ++ path ++ "\n") (.object [("indexed", .bool false)]), w)

/-- 索引を空にする。 -/
def runClear (s : Settings) (root : String) (w : Workspace) : Answer × Workspace :=
  let path := indexPath root s
  if w.contains path then
    match w.openIndex path s.index.lexical with
    | .error e => (.failure e, w)
    | .ok (place, store, w) =>
      (.text ("Cleared " ++ path ++ "\n"), w.putIndex place store.clear)
  else (.text ("No index at " ++ path ++ "\n"), w)

/-! ## 点検 -/

/-- 設定のファイルの点検。 -/
def checkConfig (w : Workspace) : Check :=
  if w.contains configFile then .pass "config_file" (configFile ++ " found")
  else .info "config_file"
    (configFile ++ " not found, using defaults (run 'sift init' to create one)")

/-- 提供元に届くか、モデルが使えるかの点検。 -/
def checkProvider (p : Provider σ) (isOllama : Bool) (s : Session σ) : Check × Session σ :=
  match p.connected s with
  | (false, s) =>
    (.fail "provider_connection" ("cannot reach " ++ p.name)
      (if isOllama then "start it with 'ollama serve' or set embedding.base_url"
        else "check network access and embedding.base_url"), s)
  | (true, s) =>
    match p.modelAvailable s with
    | (false, s) =>
      (.fail "embedding_model" ("model `" ++ p.model ++ "` not available")
        (if isOllama then "run 'ollama pull " ++ p.model ++ "'"
          else "check embedding.model and your API key"), s)
    | (true, s) => (.pass "embedding_model" ("`" ++ p.model ++ "` ready"), s)

/-- 提供元の点検。 -/
def checkEmbedding (world : Surroundings σ) (o : EmbeddingSettings) (wire : σ) : List Check × σ :=
  match Service.ofSettings world.environment o with
  | .error e =>
    ([.fail "embedding_provider" e.message "fix the [embedding] section of .sift.toml"], wire)
  | .ok service =>
    let p := service.provider world.transport
    let (check, session) := checkProvider p (Text.asciiLower o.provider == "ollama")
      (service.session wire)
    ([.pass "embedding_provider" (p.name ++ " (model: " ++ p.model ++ ")"), check],
      session.peer.wire)

/-- 索引の点検。 -/
def checkIndex (s : Settings) (root : String) (w : Workspace) : List Check × Workspace :=
  let path := indexPath root s
  if w.contains path then
    match w.openIndex path s.index.lexical with
    | .error e => ([.fail "search_index" e.message "run 'sift clear' or delete the index file"], w)
    | .ok (_, store, w) =>
      ([.pass "search_index" (toString store.chunkCount ++ " chunks from "
          ++ toString store.fileCount ++ " files, " ++ Report.dimensionsText store.dimensions
          ++ " dimensions")]
        ++ (if !store.hasKeywords && 0 < store.chunkCount then
            [.info "keyword_index" "unavailable, searches use vectors only"]
          else []), w)
  else ([.info "search_index" "not found (run 'sift index' to create)"], w)

/-- 設定・提供元・索引を点検する。 -/
def runDoctor (world : Surroundings σ) (format : OutputFormat) (s : Settings) (root : String)
    (w : Workspace) (wire : σ) : Answer × Workspace × σ :=
  let (embedding, wire) := checkEmbedding world s.embedding wire
  let (index, after) := checkIndex s root w
  let checks := checkConfig w :: embedding ++ index
  (.shown format (Check.reportText version checks) (Check.reportJson version checks), after, wire)

/-! ## 命令を選ぶ -/

/-- 引数で選び直した、検索の選び方。 -/
def searchOptions (s : SearchSettings) (limit : Option Nat) (minSimilarity : Option Float)
    (noHybrid noRerank : Bool) : SearchOptions Float :=
  let o := SearchOptions.ofSettings s
  { o with
    limit := limit.getD o.limit
    minSimilarity := (minSimilarity.map (Quantity.clamp 0 1)).getD o.minSimilarity
    hybrid := o.hybrid && !noHybrid
    rerank := o.rerank && !noRerank }

/-- 命令を施す。 -/
def perform (world : Surroundings σ) (format : OutputFormat) (s : Settings) (w : Workspace)
    (wire : σ) : Option Command → Answer × Workspace × σ
  | none => (.text welcome, w, wire)
  | some .init =>
    let (answer, w) := runInit w
    (answer, w, wire)
  | some (.index path full) => runIndex world format s path full w wire
  | some (.search query path limit floor noHybrid noRerank) =>
    runSearch world format s path query (searchOptions s.search limit floor noHybrid noRerank)
      w wire
  | some (.stats path) =>
    let (answer, w) := runStats world format s path w
    (answer, w, wire)
  | some (.clear path) =>
    let (answer, w) := runClear s path w
    (answer, w, wire)
  | some (.doctor path) => runDoctor world format s path w wire

/-- 引数を読んで命令を施す。 -/
def run (world : Surroundings σ) (args : List String) (w : Workspace) (wire : σ) :
    Answer × Workspace × σ :=
  match Arguments.read args with
  | .error .help => (.text usage, w, wire)
  | .error .version => (.text ("sift " ++ version ++ "\n"), w, wire)
  | .error (.usage message) => ({ code := 2, notice := message }, w, wire)
  | .ok i =>
    match loadConfig w i.config with
    | .error e => (.failure e, w, wire)
    | .ok s => perform world i.format s w wire i.command

end CodeSearch.Cli
