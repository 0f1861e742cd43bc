import CodeSearch.Embedding.Provider
import CodeSearch.Embedding.TokenBucket
import CodeSearch.Http.Status
import CodeSearch.Json

/-!
# HTTP の要求と応答

相手は、要求から応答への関数 `Transport` として与える。応答がないのは、つながらないときである。

送る前に宛先と認証の見出しを確かめる。どちらかが書けないものなら、相手には何も送らない。
-/

namespace CodeSearch.Http

/-- 要求の種類。 -/
inductive Method where
  | get | post
  deriving DecidableEq, Repr

/-- 種類の名前。 -/
def Method.name : Method → String
  | .get => "GET"
  | .post => "POST"

/-- 要求。 -/
structure Request where
  method : Method
  url : String
  /-- 認証の見出しに載せる鍵。 -/
  bearer : Option String := none
  body : Option Json := none

/-- 応答。 -/
structure Reply where
  status : Nat
  body : String := ""

/-- 相手。つながらなければ応答はない。 -/
abbrev Transport (σ : Type) := Request → σ → Option Reply × σ

/-- 応答が得られなかったわけ。 -/
inductive Failure where
  /-- 要求の形に書けない。 -/
  | malformed
  /-- HTTP の宛先ではない。 -/
  | unsupported (url : String)
  /-- 相手につながらない。 -/
  | unreachable (url : String)
  deriving DecidableEq, Repr

/-- わけの文面。 -/
def Failure.message : Failure → String
  | .malformed => "builder error"
  | .unsupported url => "builder error for url (" ++ url ++ ")"
  | .unreachable url => "error sending request for url (" ++ url ++ ")"

/-! ## 要求の検査 -/

/-- 宛先の方式と残り。コロンがなければない。 -/
def scheme? (url : String) : Option (String × List Char) :=
  match url.toList.span (fun c => c.isAlphanum || c == '+' || c == '-' || c == '.') with
  | (name, ':' :: rest) =>
    if name.head?.any Char.isAlpha then some ((String.ofList name).toLower, rest) else none
  | _ => none

/-- 見出しに書ける文字か。 -/
def isHeaderChar (c : Char) : Bool := c == '\t' || (' ' ≤ c && c != '\x7f')

/-- 送れない要求なら、そのわけ。 -/
def Request.defect? (r : Request) : Option Failure :=
  match scheme? r.url with
  | none => some .malformed
  | some (name, rest) =>
    if name = "http" || name = "https" then
      if (rest.dropWhile (· == '/')).isEmpty then some .malformed
      else if (r.bearer.getD "").toList.all isHeaderChar then none
      else some .malformed
    else some (.unsupported r.url)

/-! ## やりとり -/

/-- 相手への線。流量を抑えながら使う。 -/
structure Link (σ : Type) where
  limiter : RateLimiter Float := {}
  wire : σ

variable {σ : Type}

/-- 要求を送り、応答を受け取る。 -/
def exchange (t : Transport σ) (r : Request) (s : Session (Link σ)) :
    Except Failure Reply × Session (Link σ) :=
  match r.defect? with
  | some f => (.error f, s)
  | none =>
    let (reply, wire) := t r s.peer.wire
    (match reply with
      | some reply => .ok reply
      | none => .error (.unreachable r.url),
      { s with peer := { s.peer with wire } })

/-- `count` 語の要求を送れるまで待つ。 -/
def await (count : Nat) (s : Session (Link σ)) : Session (Link σ) :=
  let (limiter, now) := s.peer.limiter.acquire sleepSeconds count s.now
  { now, peer := { s.peer with limiter } }

end CodeSearch.Http
