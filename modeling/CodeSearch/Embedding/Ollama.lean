import CodeSearch.Http.Exchange
import CodeSearch.Json.Reader
import CodeSearch.Json.Record
import CodeSearch.Settings
import CodeSearch.Text.Line

/-!
# Ollama による埋め込み

手元で動く Ollama に HTTP で頼む。モデルの一覧 `/api/tags` が読めれば、相手に届いている。

モデルがない（404）のは致命的な失敗とし、つながらないことやほかの状態は、
送り直せば直るかもしれない失敗とする。
-/

namespace CodeSearch

/-- Ollama の宛先とモデル。 -/
structure Ollama where
  baseUrl : String
  model : String
  dimensions : Option Nat := none

namespace Ollama

open Http

/-- 既定の宛先。 -/
def defaultBaseUrl : String := "http://localhost:11434"

/-- 末尾の斜線を落とす。 -/
def trimSlashes (url : String) : String :=
  String.ofList (url.toList.reverse.dropWhile (· == '/')).reverse

/-- 設定から作る。 -/
def ofSettings (o : EmbeddingSettings) : Ollama :=
  { baseUrl := trimSlashes (o.baseUrl.getD defaultBaseUrl), model := o.model,
    dimensions := o.dimensions }

/-- 入っているモデルの札が、求めるモデルを指すか。版の省略は `latest` とみなす。 -/
def tagMatches (installed wanted : String) : Bool :=
  installed == wanted || (wanted ++ ":").toList.isPrefixOf installed.toList
    || installed ++ ":latest" == wanted

/-- 目印の要るモデルなら、その目印。 -/
def prefixes (o : Ollama) : Option TaskPrefixes :=
  if Text.occursIn "nomic" o.model then some .nomic else none

/-- 目印を付けた文書。 -/
def marked (o : Ollama) (isQuery : Bool) (text : String) : String :=
  match o.prefixes with
  | some p => p.apply text isQuery
  | none => text

/-! ## 応答を読む -/

/-- モデルの名前の一覧。 -/
def modelNames? (reply : Json) : Option (List String) := do
  match ← reply.record? ["models"] with
  | [some models] =>
    (← models.array?).mapM fun m => do
      match ← m.record? ["name"] with
      | [some name] => name.string?
      | _ => none
  | _ => some []

/-- 返されたベクトル。 -/
def embeddings? (reply : Json) : Option (List Vec) := do
  match ← reply.record? ["embeddings"] with
  | [some vectors] => (← vectors.array?).mapM Json.vector?
  | _ => none

/-- 埋め込みの応答を、`count` 個のベクトルとして読む。 -/
def vectorsOf (o : Ollama) (count : Nat) (reply : Reply) : Except Error (List Vec) :=
  if isSuccess reply.status then
    match (Json.parse? reply.body).bind embeddings? with
    | none => .error (.embedding "failed to parse response: error decoding response body")
    | some vs =>
      if vs.length = count then .ok vs
      else .error (.embedding
        ("expected " ++ toString count ++ " embeddings, got " ++ toString vs.length))
  else if reply.status = 404 then
    .error (.providerUnavailable ("model `" ++ o.model ++ "` is not installed (run `ollama pull "
      ++ o.model ++ "`): " ++ reply.body))
  else
    .error (.embedding ("Ollama returned " ++ statusText reply.status ++ ": " ++ reply.body))

/-! ## 要求を送る -/

variable {σ : Type}

/-- 入っているモデル。届かなければない。 -/
def installedModels (o : Ollama) (t : Transport σ) (s : Session (Link σ)) :
    Option (List String) × Session (Link σ) :=
  match exchange t { method := .get, url := o.baseUrl ++ "/api/tags" } s with
  | (.ok reply, s) =>
    (if isSuccess reply.status then (Json.parse? reply.body).bind modelNames? else none, s)
  | (.error _, s) => (none, s)

/-- 埋め込みの要求の本文。 -/
def requestBody (o : Ollama) (input : List String) : Json :=
  .object ([("model", .string o.model), ("input", Json.strings input)]
    ++ (o.dimensions.map fun d => ("dimensions", Json.nat d)).toList)

/-- 文書を送り、同じ数のベクトルを受け取る。 -/
def request (o : Ollama) (t : Transport σ) (input : List String) (s : Session (Link σ)) :
    Except Error (List Vec) × Session (Link σ) :=
  match exchange t
      { method := .post, url := o.baseUrl ++ "/api/embed", body := some (o.requestBody input) }
      s with
  | (.ok reply, s) => (o.vectorsOf input.length reply, s)
  | (.error f, s) =>
    (.error (.embedding ("request to " ++ o.baseUrl ++ " failed: " ++ f.message)), s)

/-- 提供元としての Ollama。 -/
def provider (o : Ollama) (t : Transport σ) : Provider (Link σ) where
  name := "ollama"
  model := o.model
  dimensions := o.dimensions
  prefixes := o.prefixes
  connected s :=
    let (models, s) := o.installedModels t s
    (models.isSome, s)
  modelAvailable s :=
    let (models, s) := o.installedModels t s
    ((models.getD []).any (tagMatches · o.model), s)
  embed text isQuery s :=
    let (vs, s) := o.request t [o.marked isQuery text] s
    (vs.map fun vs => vs.getLastD [], s)
  embedBatch texts s :=
    if texts.isEmpty then (.ok [], s) else o.request t (texts.map (o.marked false)) s

end Ollama

end CodeSearch
