/-!
# 進み具合

長くかかる処理の途中の報告である。割合は百分率で、総数が零なら 100 とする。
-/

namespace CodeSearch

/-- 索引づけの段階。 -/
inductive Phase where
  | preflight | chunking | embedding | storing | done
  deriving DecidableEq, Repr

/-- 段階の名前。 -/
def Phase.name : Phase → String
  | .preflight => "preflight"
  | .chunking => "chunking"
  | .embedding => "embedding"
  | .storing => "storing"
  | .done => "done"

/-- 途中の報告。 -/
structure Progress where
  phase : Phase
  current : Nat
  total : Nat
  message : String
  deriving DecidableEq, Repr

namespace Progress

/-- 百分率。0 から 100 に収める。 -/
def percentage (p : Progress) : Float :=
  if p.total = 0 then 100
  else
    let x := Float.ofNat p.current / Float.ofNat p.total * 100
    if x < 0 then 0 else if 100 < x then 100 else x

end Progress

end CodeSearch
