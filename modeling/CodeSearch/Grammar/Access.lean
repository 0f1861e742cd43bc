import CodeSearch.Grammar.Registry

/-!
# 保管に問いながら進む計算

断片を切る仕事は、文法の保管に何度か問い、答えを見て先へ進む。保管はほかの仕事と共有されることが
あるので、仕事を、次の問いと、答えを受け取った後の続きとして表す。

* `Access.step` は問いを一つだけ済ませる。
* `Access.run` は最後まで続けて済ませる。`Access.asks` はその間の問いの数である。
-/

namespace CodeSearch

/-- 文法の保管に問いながら進む計算。 -/
inductive Access (α : Type) where
  | done (a : α)
  /-- その言語を扱えるかを問う。 -/
  | supports (l : Language) (next : Bool → Access α)
  /-- 文法を求める。 -/
  | get (l : Language) (next : Option Grammar → Access α)

namespace Access

variable {α β : Type}

/-- 続けて計算する。 -/
def bind : Access α → (α → Access β) → Access β
  | done a, f => f a
  | supports l next, f => supports l fun b => bind (next b) f
  | get l next, f => get l fun g => bind (next g) f

instance : Monad Access where
  pure := done
  bind := bind

/-- その言語を扱えるかを問う。 -/
def askSupports (l : Language) : Access Bool := supports l done

/-- 文法を求める。 -/
def askGrammar (l : Language) : Access (Option Grammar) := get l done

/-- 終わっていれば、その結果。 -/
def result? : Access α → Option α
  | done a => some a
  | _ => none

/-- 問いを一つ済ませる。終わっていれば何もしない。 -/
def step (r : Registry) : Access α → Access α × Registry
  | done a => (done a, r)
  | supports l next => (next (r.supports l), r)
  | get l next => (next (r.get l).1, (r.get l).2)

/-- 最後まで続けて済ませる。 -/
def run (r : Registry) : Access α → α × Registry
  | done a => (a, r)
  | supports l next => run r (next (r.supports l))
  | get l next => run (r.get l).2 (next (r.get l).1)

/-- 最後まで続けて済ませる間に問う数。 -/
def asks (r : Registry) : Access α → Nat
  | done _ => 0
  | supports l next => asks r (next (r.supports l)) + 1
  | get l next => asks (r.get l).2 (next (r.get l).1) + 1

end Access

end CodeSearch
