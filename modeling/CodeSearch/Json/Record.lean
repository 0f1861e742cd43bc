import CodeSearch.Chunk
import CodeSearch.Json

/-!
# 決まった項目の読み方

項目の名前が決まっている値を JSON から読む。
オブジェクトなら名前で、配列なら名前の順に読む。知らない名前は無視する。
同じ項目が二度あるもの、項目より長い配列は拒む。
-/

namespace CodeSearch.Json

/-- 項目。ないものは `none` である。名前の順に並ぶ。 -/
def record? (names : List String) : Json → Option (List (Option Json))
  | .object members =>
    names.mapM fun name =>
      match members.filter (fun m => m.1 == name) with
      | [] => some none
      | [m] => some (some m.2)
      | _ => none
  | .array items =>
    if items.length ≤ names.length then
      some (names.mapIdx fun i _ => items[i]?)
    else none
  | _ => none

/-- 単精度の数。整数は一度で丸め、小数は倍精度を経て丸める。 -/
def single? : Json → Option Single
  | .number n =>
    if n.integral && n.mantissa != 0 && n.mantissa < Nat.pow 2 63 then
      let x := n.mantissa.toUInt64.toFloat32
      some (.ofFloat32 (if n.negative then -x else x))
    else some (.ofFloat32 n.toFloat.toFloat32)
  | _ => none

/-- 単精度のベクトル。 -/
def vector? (j : Json) : Option Vec := j.array?.bind (·.mapM single?)

end CodeSearch.Json
