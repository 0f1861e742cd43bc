/-!
# 自然数の和

自然数の列の和である。
-/

namespace CodeSearch

/-- 列の和。 -/
def sumOf : List Nat → Nat
  | [] => 0
  | n :: ns => n + sumOf ns

@[simp] theorem sumOf_cons (n : Nat) (ns : List Nat) : sumOf (n :: ns) = n + sumOf ns := rfl

end CodeSearch
