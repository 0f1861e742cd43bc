import CodeSearch.Chunk
import CodeSearch.Identifier
import CodeSearch.Quantity
import CodeSearch.Sorting

/-!
# 順位

検索の結果に点を付け、並べる。点の型は `Quantity` ならどれでもよい。

* `Rank.fuse` は、いくつかの順位を逆順位の和で一つにする。
* `Rank.rerank` は、類似度・語の重なり・パス・種類から点を付け直す。
* `Rank.display` は、類似度を 0 から 100 に引き伸ばす。並びは変えない。

整列はどれも安定で、同点は元の順のままである。
-/

namespace CodeSearch

/-- 検索で見つかった断片。点は付いているものだけを持つ。 -/
structure Hit (α : Type) where
  chunk : Chunk
  similarity : α
  normalized : Option α := none
  rerankScore : Option α := none
  fusionScore : Option α := none

namespace Rank

variable {α : Type} [Quantity α]

open Quantity

/-- 距離の二乗を類似度にする。単位ベクトルどうしなら内積にあたる。 -/
def similarity (squaredDistance : α) : α := clamp (nat 0) (nat 1) (nat 1 - squaredDistance / nat 2)

/-! ## 順位の統合 -/

/-- 順位 `rank` の点。順位は 0 から数える。 -/
def contribution (k rank : Nat) : α := nat 1 / (nat k + nat rank + nat 1)

/-- 同じ名前の点に加える。なければ後ろに足す。 -/
def credit (h : Hit α) (points : α) : List (Hit α × α) → List (Hit α × α)
  | [] => [(h, points)]
  | (g, total) :: rest =>
    if g.chunk.id = h.chunk.id then (g, total + points) :: rest
    else (g, total) :: credit h points rest

/-- 一つの順位の点を加える。`rank` は先頭の順位である。 -/
def creditAll (k : Nat) (table : List (Hit α × α)) (rank : Nat) :
    List (Hit α) → List (Hit α × α)
  | [] => table
  | h :: rest => creditAll k (credit h (contribution k rank) table) (rank + 1) rest

/-- 点の大きい順に並べる。 -/
def byScoreDesc (score : Hit α → α) (hits : List (Hit α)) : List (Hit α) :=
  stableSort (fun a b => lt (score b) (score a)) hits

/-- 順位を逆順位の和で統合する。中身は最初に現れた順位のものをとる。 -/
def fuse (lists : List (List (Hit α))) (k : Nat) : List (Hit α) :=
  let table := lists.foldl (fun t hits => creditAll k t 0 hits) []
  byScoreDesc (fun h => h.fusionScore.getD (nat 0))
    (table.map fun p => { p.1 with fusionScore := some p.2 })

/-! ## 点の付け直し -/

/-- 種類ごとの優先度。呼び出せるものを先に、取り込みと公開を最後にする。 -/
def priority : ChunkType → α
  | .function | .method => nat 1
  | .class | .component => decimal 9 1
  | .interface | .type | .namespace => decimal 8 1
  | .computed | .watch | .lifecycle | .data => decimal 75 2
  | .jsx | .template | .script => decimal 6 1
  | .variable => decimal 5 1
  | .block | .css | .unknown => decimal 4 1
  | .import | .export => decimal 1 1

/-- 問い合わせの語のうち、`tokens` に現れるものの割合。問い合わせに語がなければ零である。 -/
def overlap (query tokens : List String) : α :=
  if query.isEmpty then nat 0
  else nat (query.filter tokens.contains).length / nat query.length

/-- 付け直した点。`query` は問い合わせの、重複のない語である。 -/
def score (query : List String) (h : Hit α) : α :=
  decimal 5 1 * h.similarity
    + decimal 3 1 * overlap query (Identifier.tokenize h.chunk.text)
    + decimal 1 1 * overlap query (Identifier.tokenize h.chunk.path)
    + decimal 1 1 * priority h.chunk.kind

/-- 点を付け直して並べる。 -/
def rerank (query : String) (hits : List (Hit α)) : List (Hit α) :=
  let words := (Identifier.tokenize query).eraseDups
  byScoreDesc (fun h => h.rerankScore.getD (nat 0))
    (hits.map fun h => { h with rerankScore := some (score words h) })

/-! ## 表示のための引き伸ばし -/

/-- 比べられる量の範囲。一つもなければない。 -/
def bounds (xs : List α) : Option (α × α) :=
  xs.foldl (fun acc x =>
    if isOrdered x then
      match acc with
      | none => some (x, x)
      | some (lo, hi) => some (Quantity.min lo x, Quantity.max hi x)
    else acc) none

/-- これ以下の幅は、幅がないとみなす。 -/
def negligible : α := nat 1 / nat (Nat.pow 2 52)

/-- 範囲の中の位置を百分率にする。幅がなければ 100 である。 -/
def scaled (range : Option (α × α)) (x : α) : α :=
  match range with
  | none => nat 100
  | some (lo, hi) =>
    if lt negligible (hi - lo) then (x - lo) / (hi - lo) * nat 100 else nat 100

/-- 類似度を 0 から 100 に引き伸ばす。 -/
def display (hits : List (Hit α)) : List (Hit α) :=
  let range := bounds (hits.map (·.similarity))
  hits.map fun h => { h with normalized := some (scaled range h.similarity) }

end Rank

end CodeSearch
