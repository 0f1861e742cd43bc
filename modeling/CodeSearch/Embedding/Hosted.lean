import CodeSearch.Embedding.Ollama
import CodeSearch.Sorting
import CodeSearch.Text.Blank
import CodeSearch.Total

/-!
# 公開された埋め込みの API

Voyage と OpenAI は同じ形の要求と応答を使う。違うのは、問い合わせと文書の区別と、
長さの指定の書き方だけである。どちらも流量を抑えながら使い、鍵を見出しに載せる。

応答の項目には文書の番号が付く。番号の順に並べ直し、数が合うことだけを確かめる。
番号のない項目は 0 番とみなす。整列は安定なので、番号がどれにもなければ届いた順になる。
-/

namespace CodeSearch

/-- 埋め込みの API。 -/
inductive HostedApi where
  | voyage | openAi
  deriving DecidableEq, Repr

namespace HostedApi

/-- API の名前。 -/
def name : HostedApi → String
  | .voyage => "voyage"
  | .openAi => "openai"

/-- 既定の宛先。 -/
def defaultBaseUrl : HostedApi → String
  | .voyage => "https://api.voyageai.com/v1"
  | .openAi => "https://api.openai.com/v1"

/-- 既定のモデル。 -/
def defaultModel : HostedApi → String
  | .voyage => "voyage-code-3"
  | .openAi => "text-embedding-3-small"

/-- 鍵を置く環境変数。 -/
def keyVariable : HostedApi → String
  | .voyage => "VOYAGE_API_KEY"
  | .openAi => "OPENAI_API_KEY"

/-- 毎分の要求の数の、既定の上限。 -/
def defaultRequests : HostedApi → Nat
  | .voyage => 300
  | .openAi => 3000

/-- 毎分の語数の、既定の上限。 -/
def defaultTokens : HostedApi → Nat
  | .voyage => 1000000
  | .openAi => 1000000

end HostedApi

/-- 公開された API の宛先とモデルと鍵。 -/
structure Hosted where
  api : HostedApi
  apiKey : String
  baseUrl : String
  model : String
  dimensions : Option Nat := none
  requestsPerMinute : Nat
  tokensPerMinute : Nat

namespace Hosted

open Http

/-- 既定の宛先とモデルで使う。 -/
def ofKey (api : HostedApi) (apiKey : String) : Hosted :=
  { api, apiKey, baseUrl := api.defaultBaseUrl, model := api.defaultModel,
    requestsPerMinute := api.defaultRequests, tokensPerMinute := api.defaultTokens }

/-- 使うモデル。手元で動かすモデルの名前のままなら、API の既定に替える。 -/
def modelOf (api : HostedApi) (model : String) : String :=
  if model = "" || model = ({} : EmbeddingSettings).model then api.defaultModel else model

/-- 鍵。設定が空白だけなら環境変数を見る。 -/
def keyOf (environment : String → Option String) (api : HostedApi) (o : EmbeddingSettings) :
    Option String :=
  match o.apiKey.filter (fun k => !Text.allBlank k) with
  | some k => some k
  | none => environment api.keyVariable

/-- 設定から作る。鍵がなければ使えない。 -/
def ofSettings (environment : String → Option String) (api : HostedApi) (o : EmbeddingSettings) :
    Except Error Hosted :=
  match keyOf environment api o with
  | none => .error (.config ("embedding API key not found: set embedding.api_key in .sift.toml or "
      ++ api.keyVariable ++ " env var"))
  | some apiKey =>
    .ok { api, apiKey
          baseUrl := Ollama.trimSlashes (o.baseUrl.getD api.defaultBaseUrl)
          model := modelOf api o.model
          dimensions := o.dimensions
          requestsPerMinute := o.requestsPerMinute.getD api.defaultRequests
          tokensPerMinute := o.tokensPerMinute.getD api.defaultTokens }

/-- 時刻 `now` に始まる流量の制限。 -/
def limiter (h : Hosted) (now : Nat) : RateLimiter Float :=
  .ofLimits (some h.requestsPerMinute) (some h.tokensPerMinute) now

/-! ## 応答を読む -/

/-- 応答の項目。 -/
structure Item where
  /-- 付いていた番号。付いていないこともある。 -/
  index : Option Nat := none
  vector : Vec

/-- 並べるときの番号。付いていなければ 0 番とみなす。 -/
def Item.key (i : Item) : Nat := i.index.getD 0

/-- 項目を読む。 -/
def item? (j : Json) : Option Item := do
  match ← j.record? ["embedding", "index"] with
  | [some vector, index] =>
    let vector ← vector.vector?
    match index with
    | none => some { vector }
    | some i =>
      let i ← i.nat?
      if i < Nat.pow 2 64 then some { index := some i, vector } else none
  | _ => none

/-- 応答の項目の列。 -/
def items? (reply : Json) : Option (List Item) := do
  match ← reply.record? ["data"] with
  | [some data] => (← data.array?).mapM item?
  | _ => none

/-- 番号の順に並べたベクトル。 -/
def ordered (items : List Item) : List Vec :=
  (stableSort (fun a b => decide (a.key < b.key)) items).map (·.vector)

/-- 失敗の応答の原因。 -/
def statusError (api : HostedApi) (reply : Reply) : Error :=
  let text := statusText reply.status
  if reply.status = 401 || reply.status = 403 then
    .config (api.name ++ " rejected the API key (" ++ text ++ "): " ++ reply.body)
  else if reply.status = 404 then
    .providerUnavailable (api.name ++ " returned " ++ text ++ ": " ++ reply.body)
  else .embedding (api.name ++ " API returned " ++ text ++ ": " ++ reply.body)

/-- 並べたベクトルの数が合うことを確かめる。 -/
def matched (count : Nat) (items : List Item) : Except Error (List Vec) :=
  let vs := ordered items
  if vs.length = count then .ok vs
  else .error (.embedding
    ("expected " ++ toString count ++ " embeddings, got " ++ toString vs.length))

/-- 埋め込みの応答を、`count` 個のベクトルとして読む。 -/
def vectorsOf (h : Hosted) (count : Nat) (reply : Reply) : Except Error (List Vec) :=
  if isSuccess reply.status then
    match (Json.parse? reply.body).bind items? with
    | none => .error (.embedding "failed to parse response: error decoding response body")
    | some items => matched count items
  else .error (statusError h.api reply)

/-! ## 要求を送る -/

/-- 埋め込みの要求の本文。 -/
def requestBody (h : Hosted) (input : List String) (isQuery : Bool) : Json :=
  let size := fun (name : String) => (h.dimensions.map fun d => (name, Json.nat d)).toList
  .object ([("model", .string h.model), ("input", Json.strings input)]
    ++ match h.api with
      | .voyage =>
        ("input_type", .string (if isQuery then "query" else "document"))
          :: size "output_dimension"
      | .openAi => size "dimensions")

/-- 語数の見積もり。四文字を一語とする。 -/
def estimate (input : List String) : Nat := sumOf (input.map fun t => (t.length + 3) / 4)

variable {σ : Type}

/-- 流量を抑えて文書を送り、同じ数のベクトルを受け取る。 -/
def request (h : Hosted) (t : Transport σ) (input : List String) (isQuery : Bool)
    (s : Session (Link σ)) : Except Error (List Vec) × Session (Link σ) :=
  match exchange t
      { method := .post, url := h.baseUrl ++ "/embeddings", bearer := some h.apiKey,
        body := some (h.requestBody input isQuery) }
      (await (estimate input) s) with
  | (.ok reply, s) => (h.vectorsOf input.length reply, s)
  | (.error f, s) =>
    (.error (.embedding ("request to " ++ h.baseUrl ++ " failed: " ++ f.message)), s)

/-- 提供元としての API。モデルの一覧はないので、一語を埋め込んで確かめる。 -/
def provider (h : Hosted) (t : Transport σ) : Provider (Link σ) where
  name := h.api.name
  model := h.model
  dimensions := h.dimensions
  connected s :=
    let (reply, s) := exchange t
      { method := .get, url := h.baseUrl ++ "/models", bearer := some h.apiKey } s
    (reply.toBool, s)
  modelAvailable s :=
    let (vs, s) := h.request t ["ping"] true s
    (vs.toBool, s)
  embed text isQuery s :=
    let (vs, s) := h.request t [text] isQuery s
    (vs.map fun vs => vs.getLastD [], s)
  embedBatch texts s := if texts.isEmpty then (.ok [], s) else h.request t texts false s

end Hosted

end CodeSearch
