import CodeSearch.Clock
import CodeSearch.DocumentText
import CodeSearch.Error

/-!
# 埋め込みの提供元

提供元は、文書をベクトルにする相手である。呼ぶたびに相手の状態と時刻が進むので、
どの呼び出しも `Session` を受け取り、進めて返す。相手の状態の型 `σ` は何でもよい。
-/

namespace CodeSearch

/-- 提供元とのやりとり。 -/
structure Session (σ : Type) where
  /-- 時刻。ナノ秒で数える。 -/
  now : Nat := 0
  /-- 相手の状態。 -/
  peer : σ

namespace Session

variable {σ : Type}

/-- ミリ秒だけ休む。0 なら休まない。 -/
def pause (s : Session σ) (millis : Nat) : Session σ :=
  if millis = 0 then s else { s with now := wakeAt s.now (millis * nanosPerMilli) }

end Session

/-- 埋め込みの提供元。 -/
structure Provider (σ : Type) where
  name : String
  model : String
  /-- 返すベクトルの長さ。前もって分かっているときだけある。 -/
  dimensions : Option Nat := none
  /-- 返されたベクトルの長さを 1 に揃えるか。 -/
  normalizes : Bool := true
  prefixes : Option TaskPrefixes := none
  /-- 相手に届くか。 -/
  connected : Session σ → Bool × Session σ
  /-- モデルが使えるか。 -/
  modelAvailable : Session σ → Bool × Session σ
  /-- 一つの文書か問い合わせをベクトルにする。 -/
  embed : (text : String) → (isQuery : Bool) → Session σ → Except Error Vec × Session σ
  /-- いくつかの文書を一度にベクトルにする。 -/
  embedBatch : (texts : List String) → Session σ → Except Error (List Vec) × Session σ

end CodeSearch
