import CodeSearch.Embedding.Hosted
import CodeSearch.Text.LetterCase

/-!
# 提供元を選ぶ

設定の名前で提供元を選ぶ。名前の大文字と小文字は区別しない。
-/

namespace CodeSearch

/-- 設定で選べる提供元。 -/
inductive Service where
  | ollama (o : Ollama)
  | hosted (h : Hosted)

namespace Service

open Http

/-- 設定から選ぶ。`environment` は環境変数の値である。 -/
def ofSettings (environment : String → Option String) (o : EmbeddingSettings) :
    Except Error Service :=
  match Text.lowercase o.provider with
  | "ollama" => .ok (.ollama (.ofSettings o))
  | "voyage" => (Hosted.ofSettings environment .voyage o).map .hosted
  | "openai" => (Hosted.ofSettings environment .openAi o).map .hosted
  | other => .error (.config
      ("unknown embedding provider `" ++ other ++ "`: expected ollama, voyage or openai"))

variable {σ : Type}

/-- 相手とつながった提供元。 -/
def provider (t : Transport σ) : Service → Provider (Link σ)
  | .ollama o => o.provider t
  | .hosted h => h.provider t

/-- 時刻 0 に始まるやりとり。 -/
def session (wire : σ) : Service → Session (Link σ)
  | .ollama _ => { peer := { wire } }
  | .hosted h => { peer := { limiter := h.limiter 0, wire } }

end Service

end CodeSearch
