import CodeSearch.Error
import CodeSearch.Toml.Reader

/-!
# 設定

`.sift.toml` に書く設定である。どの項目にも既定の値があるので、空の設定でも動く。

知らない項目は無視する。項目の型が合わなければ、設定全体を読めないとする。
節は表で書くが、項目の順に値を並べた配列で書いてもよい。
そのとき、既定の値のない項目は省けない。
-/

namespace CodeSearch

/-- 断片の切り方の設定。 -/
structure ChunkerSettings where
  /-- 断片の語数の見積もりの上限。 -/
  tokenBudget : Nat := 1500
  /-- 並べて切るファイルの数。 -/
  maxWorkers : Nat := 4
  /-- 宣言がないときに切る行数。 -/
  fallbackWindow : Nat := 60

/-- 埋め込みの設定。 -/
structure EmbeddingSettings where
  provider : String := "ollama"
  model : String := "nomic-embed-text"
  apiKey : Option String := none
  baseUrl : Option String := none
  dimensions : Option Nat := none
  /-- 一度に送る文書の数。 -/
  batchSize : Nat := 16
  /-- 束ごとに試す回数。 -/
  maxRetries : Nat := 3
  /-- 束の間に休むミリ秒。 -/
  batchDelay : Nat := 100
  /-- 一つずつ送るときに休むミリ秒。 -/
  itemDelay : Nat := 50
  segmentIdentifiers : Bool := true
  requestsPerMinute : Option Nat := none
  tokensPerMinute : Option Nat := none
  /-- 接続の確認を待つ秒数。 -/
  connectTimeout : Nat := 5
  /-- 埋め込みを待つ秒数。 -/
  requestTimeout : Nat := 60

/-- 検索の設定。 -/
structure SearchSettings where
  limit : Nat := 10
  minSimilarity : Float := 0.3
  /-- 語による検索も合わせるか。 -/
  hybrid : Bool := true
  /-- 点を付け直すか。 -/
  rerank : Bool := true
  /-- 順位の統合の定数。 -/
  fusionConstant : Nat := 60

/-- 索引の設定。 -/
structure IndexSettings where
  path : String := ".sift/index.db"
  /-- 語の索引を作るか。 -/
  lexical : Bool := true

/-- すべての設定。 -/
structure Settings where
  chunker : ChunkerSettings := {}
  embedding : EmbeddingSettings := {}
  search : SearchSettings := {}
  index : IndexSettings := {}

namespace Settings

/-! ## 節と項目 -/

/-- 設定の節。名前で引く表か、順に並べた配列である。 -/
inductive Section where
  | named (entries : List (String × Toml))
  | listed (items : List Toml)

/-- 値を節として読む。日付は項目のない節とみなす。 -/
def section? : Toml → Option Section
  | .table entries => some (.named entries)
  | .array items => some (.listed items)
  | .datetime _ => some (.named [])
  | _ => none

namespace Section

/-- 項目の値。`index` は配列で書いたときの位置である。 -/
def item? (s : Section) (index : Nat) (name : String) : Option Toml :=
  match s with
  | .named entries => entries.lookup name
  | .listed items => items[index]?

/-- 既定の値のある項目。 -/
def read {α : Type} (s : Section) (index : Nat) (name : String) (convert : Toml → Option α)
    (default : α) : Option α :=
  match s.item? index name with
  | none => some default
  | some v => convert v

/-- 既定の値のない、省ける項目。配列では省けない。 -/
def optional {α : Type} (s : Section) (index : Nat) (name : String)
    (convert : Toml → Option α) : Option (Option α) :=
  match s.item? index name, s with
  | some v, _ => (convert v).map some
  | none, .named _ => some none
  | none, .listed _ => none

end Section

/-- 上限より小さい自然数。 -/
def natBelow (bound : Nat) : Toml → Option Nat
  | .integer i => if 0 ≤ i ∧ i < bound then some i.toNat else none
  | _ => none

/-- 32 ビットの自然数。 -/
def word32 : Toml → Option Nat := natBelow (Nat.pow 2 32)

/-- 64 ビットの自然数。 -/
def word64 : Toml → Option Nat := natBelow (Nat.pow 2 64)

/-- 文字列。 -/
def text : Toml → Option String
  | .string s => some s
  | _ => none

/-- 真偽値。 -/
def flag : Toml → Option Bool
  | .boolean b => some b
  | _ => none

/-- 小数。整数で書いてもよい。 -/
def real : Toml → Option Float
  | .float x => some x
  | .integer i => some (Float.ofInt i)
  | _ => none

/-! ## 節ごとの読み方 -/

/-- 断片の切り方の節。 -/
def chunkerOf (s : Section) : Option ChunkerSettings := do
  let d : ChunkerSettings := {}
  return { tokenBudget := ← s.read 0 "token_budget" word64 d.tokenBudget
           maxWorkers := ← s.read 1 "max_workers" word64 d.maxWorkers
           fallbackWindow := ← s.read 2 "fallback_window_lines" word64 d.fallbackWindow }

/-- 埋め込みの節。 -/
def embeddingOf (s : Section) : Option EmbeddingSettings := do
  let d : EmbeddingSettings := {}
  return { provider := ← s.read 0 "provider" text d.provider
           model := ← s.read 1 "model" text d.model
           apiKey := ← s.optional 2 "api_key" text
           baseUrl := ← s.optional 3 "base_url" text
           dimensions := ← s.optional 4 "dimensions" word64
           batchSize := ← s.read 5 "batch_size" word64 d.batchSize
           maxRetries := ← s.read 6 "max_retries" word32 d.maxRetries
           batchDelay := ← s.read 7 "inter_batch_delay_ms" word64 d.batchDelay
           itemDelay := ← s.read 8 "item_delay_ms" word64 d.itemDelay
           segmentIdentifiers := ← s.read 9 "segment_identifiers" flag d.segmentIdentifiers
           requestsPerMinute := ← s.optional 10 "requests_per_minute" word32
           tokensPerMinute := ← s.optional 11 "tokens_per_minute" word32
           connectTimeout := ← s.read 12 "connect_timeout_secs" word64 d.connectTimeout
           requestTimeout := ← s.read 13 "request_timeout_secs" word64 d.requestTimeout }

/-- 検索の節。 -/
def searchOf (s : Section) : Option SearchSettings := do
  let d : SearchSettings := {}
  return { limit := ← s.read 0 "limit" word64 d.limit
           minSimilarity := ← s.read 1 "min_similarity" real d.minSimilarity
           hybrid := ← s.read 2 "hybrid" flag d.hybrid
           rerank := ← s.read 3 "rerank" flag d.rerank
           fusionConstant := ← s.read 4 "rrf_k" word64 d.fusionConstant }

/-- 索引の節。 -/
def indexOf (s : Section) : Option IndexSettings := do
  let d : IndexSettings := {}
  return { path := ← s.read 0 "path" text d.path
           lexical := ← s.read 1 "lexical" flag d.lexical }

/-- 節があれば読み、なければ既定の値にする。 -/
def sectionOf {α : Type} (entries : List (String × Toml)) (name : String)
    (read : Section → Option α) (default : α) : Option α :=
  match entries.lookup name with
  | none => some default
  | some v => (section? v).bind read

/-- 表から設定を読む。 -/
def ofEntries (entries : List (String × Toml)) : Option Settings := do
  return { chunker := ← sectionOf entries "chunker" chunkerOf {}
           embedding := ← sectionOf entries "embedding" embeddingOf {}
           search := ← sectionOf entries "search" searchOf {}
           index := ← sectionOf entries "index" indexOf {} }

/-- 設定の文書を読む。 -/
def ofToml (document : String) : Except Error Settings :=
  match (Toml.parse? document).bind ofEntries with
  | some s => .ok s
  | none => .error (.toml "invalid configuration")

end Settings

end CodeSearch
