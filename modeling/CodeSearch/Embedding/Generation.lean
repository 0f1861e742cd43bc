import CodeSearch.Embedding.BatchSize
import CodeSearch.Embedding.Provider
import CodeSearch.Progress
import CodeSearch.Settings
import CodeSearch.Vector

/-!
# 断片の埋め込み

断片を前から束にして提供元に送る。束の間では決まった時間だけ休む。

* 束が失敗したら、1 秒、2 秒、4 秒……と休みを倍にしながら、束ごと送り直す。
* 決めた回数だけ試しても失敗したら、束の大きさを半分にし、一つずつ送る。
* 致命的な失敗（`Error.isFatal`）だけが全体を止める。ほかの失敗は断片ごとに記録する。

やめる合図は束の境でだけ見る。合図は、済んだ断片の数から真偽を返す関数 `stop` で与える。

束ごとに一つ以上の断片が減るので、残りの断片の数が停止の測度になる。
-/

namespace CodeSearch

/-- 埋め込めなかった断片と、その理由。 -/
structure FailedChunk where
  chunk : Chunk
  reason : String

/-- 埋め込みの成果。処理した断片は、どちらかの列にちょうど一度現れる。 -/
structure Generation where
  embedded : List Chunk := []
  failed : List FailedChunk := []
  /-- 求めるベクトルの長さ。 -/
  dimensions : Option Nat := none
  /-- 途中でやめたか。 -/
  cancelled : Bool := false

namespace Generation

/-- 求める長さのベクトルか。だめなら理由を返す。 -/
def check (expected : Option Nat) (v : Vec) : Except String Vec :=
  if v.isEmpty then .error "provider returned an empty vector"
  else
    match expected with
    | none => .ok v
    | some d =>
      if d = v.length then .ok v
      else .error ("expected " ++ toString d ++ " dimensions, got " ++ toString v.length)

/-- 提供元が求めるなら、長さを 1 に揃える。 -/
def finish (normalizes : Bool) (v : Vec) : Vec := if normalizes then Vec.normalize v else v

/-- 一つの断片の結果を加える。最初に受け取ったベクトルの長さを、以後も求める。 -/
def accept (normalizes : Bool) (g : Generation) (c : Chunk) (result : Except String Vec) :
    Generation :=
  match result.bind (check g.dimensions) with
  | .ok v =>
    { g with
      embedded := g.embedded ++ [{ c with vector := some (finish normalizes v) }]
      dimensions := some v.length }
  | .error reason => { g with failed := g.failed ++ [{ chunk := c, reason }] }

/-- 束の結果を順に加える。足りないベクトルは、返されなかったものとする。 -/
def acceptAll (normalizes : Bool) (g : Generation) : List Chunk → List Vec → Generation
  | [], _ => g
  | c :: cs, [] => acceptAll normalizes (accept normalizes g c (.error "no vector returned")) cs []
  | c :: cs, v :: vs => acceptAll normalizes (accept normalizes g c (.ok v)) cs vs

end Generation

namespace Embedding

variable {σ : Type}

/-! ## 束を送る -/

/-- `failures` 回失敗した後に休む秒。 -/
def backoff (failures : Nat) : Nat := Nat.pow 2 (min (failures - 1) 16)

/-- 束を送る。失敗しても、あと `retries` 回まで送り直す。 -/
def sendAgain (p : Provider σ) (texts : List String) (failures : Nat) :
    (retries : Nat) → Session σ → Except Error (List Vec) × Session σ
  | 0, s => p.embedBatch texts s
  | retries + 1, s =>
    match p.embedBatch texts s with
    | (.ok vs, s) => (.ok vs, s)
    | (.error e, s) =>
      if e.isFatal then (.error e, s)
      else sendAgain p texts (failures + 1) retries (s.pause (backoff (failures + 1) * 1000))

/-- 束を、合わせて `attempts` 回まで送る。少なくとも一度は送る。 -/
def send (p : Provider σ) (attempts : Nat) (texts : List String) (s : Session σ) :
    Except Error (List Vec) × Session σ :=
  sendAgain p texts 0 (attempts - 1) s

/-! ## 断片を埋め込む -/

/-- 断片を一つずつ送る。`first` は最初の一つか。 -/
def embedItems (p : Provider σ) (o : EmbeddingSettings) (first : Bool) (g : Generation) :
    List Chunk → Session σ → Except Error Generation × Session σ
  | [], s => (.ok g, s)
  | c :: cs, s =>
    match p.embed (c.documentText o.segmentIdentifiers) false
        (if first then s else s.pause o.itemDelay) with
    | (.ok v, s) => embedItems p o false (g.accept p.normalizes c (.ok v)) cs s
    | (.error e, s) =>
      if e.isFatal then (.error e, s)
      else embedItems p o false (g.accept p.normalizes c (.error e.message)) cs s

/-- 一つの束を埋め込む。束の失敗は、一つずつ送って補う。 -/
def embedChunks (p : Provider σ) (o : EmbeddingSettings) (size : BatchSize) (g : Generation)
    (batch : List Chunk) (s : Session σ) : Except Error Generation × BatchSize × Session σ :=
  match send p o.maxRetries (batch.map (·.documentText o.segmentIdentifiers)) s with
  | (.ok vs, s) => (.ok (g.acceptAll p.normalizes batch vs), size, s)
  | (.error e, s) =>
    if e.isFatal then (.error e, size, s)
    else
      let (result, s) := embedItems p o true g batch s
      (result, size.shrink, s)

/-- 埋め込みの一部始終。 -/
structure Run (σ : Type) where
  result : Except Error Generation
  /-- 束ごとの報告。 -/
  reports : List Progress
  size : BatchSize
  session : Session σ

/-- 束が済んだという報告。 -/
def report (done total : Nat) : Progress :=
  { phase := .embedding, current := done, total,
    message := "embedded " ++ toString done ++ "/" ++ toString total ++ " chunks" }

/-- 残りの断片を埋め込む。`done` は済んだ断片の数である。 -/
def runFrom (p : Provider σ) (o : EmbeddingSettings) (stop : Nat → Bool) (total done : Nat)
    (reports : List Progress) (g : Generation) (size : BatchSize) (remaining : List Chunk)
    (s : Session σ) : Run σ :=
  if _ : remaining = [] then { result := .ok g, reports, size, session := s }
  else if stop done then
    { result := .ok { g with cancelled := true }, reports, size, session := s }
  else
    let n := min size.value remaining.length
    match embedChunks p o size g (remaining.take n)
        (if done = 0 then s else s.pause o.batchDelay) with
    | (.error e, next, s) => { result := .error e, reports, size := next, session := s }
    | (.ok g, next, s) =>
      runFrom p o stop total (done + n) (reports ++ [report (done + n) total]) g next
        (remaining.drop n) s
  termination_by remaining.length
  decreasing_by
    have hs := size.one_le
    have hr : 0 < remaining.length := List.length_pos_iff.2 ‹remaining ≠ []›
    simp only [List.length_drop]
    omega

/-- 断片を埋め込む。 -/
def generate (p : Provider σ) (o : EmbeddingSettings) (stop : Nat → Bool) (size : BatchSize)
    (chunks : List Chunk) (s : Session σ) : Run σ :=
  runFrom p o stop chunks.length 0 [] { dimensions := p.dimensions } size chunks s

/-! ## 問い合わせを埋め込む -/

/-- 問い合わせを埋め込む。送り直さない。 -/
def embedQuery (p : Provider σ) (query : String) (s : Session σ) : Except Error Vec × Session σ :=
  match p.embed query true s with
  | (.error e, s) => (.error e, s)
  | (.ok v, s) =>
    if v.isEmpty then (.error (.embedding "provider returned an empty query vector"), s)
    else (.ok (Generation.finish p.normalizes v), s)

end Embedding

end CodeSearch
