import CodeSearch.Grammar.Access

/-!
# 保管に問いながら進む計算の結果

計算の結果は保管の答えによるが、答え方に制限があれば、どう答えられても成り立つことを言える。
保管の状態を知らずに計算だけを見て示し、後で保管の状態の列に移す。

* `Ensures` — 制限に従うどの答え方でも、結果が `P` をみたすこと
* `Ensures.step` — 問いを一つ済ませても成り立つ。保管の状態は問いのあいだに変わっていてよい
* `Ensures.run` — 続けて済ませた結果は `P` をみたす
-/

namespace CodeSearch

/-- 保管の答え方の制限。 -/
structure Answers where
  /-- 扱えるかという問いに、そう答えてよいこと。 -/
  supports : Language → Bool → Prop
  /-- 求められた文法として、それを返してよいこと。 -/
  get : Language → Option Grammar → Prop

namespace Answers

/-- どう答えてもよい。 -/
def any : Answers where
  supports := fun _ _ => True
  get := fun _ _ => True

/-- 状態が `I` をみたす保管は制限どおりに答え、答えた後も `I` をみたすこと。 -/
structure Kept (A : Answers) (I : Registry → Prop) : Prop where
  supports : ∀ {r}, I r → ∀ l, A.supports l (r.supports l)
  get : ∀ {r}, I r → ∀ l, A.get l (r.get l).1
  next : ∀ {r}, I r → ∀ l, I (r.get l).2

theorem kept_any : any.Kept fun _ => True where
  supports := fun _ _ => trivial
  get := fun _ _ => trivial
  next := fun _ _ => trivial

end Answers

namespace Access

variable {α β : Type}

/-- 制限に従うどの答え方でも、結果が `P` をみたすこと。 -/
def Ensures (A : Answers) (P : α → Prop) : Access α → Prop
  | done a => P a
  | supports l next => ∀ b, A.supports l b → Ensures A P (next b)
  | get l next => ∀ g, A.get l g → Ensures A P (next g)

namespace Ensures

variable {A : Answers} {P Q : α → Prop} {R : β → Prop}

theorem mono (hPQ : ∀ a, P a → Q a) : ∀ {m : Access α}, m.Ensures A P → m.Ensures A Q
  | .done a, h => hPQ a h
  | .supports _ _, h => fun b hb => mono hPQ (h b hb)
  | .get _ _, h => fun g hg => mono hPQ (h g hg)

/-- 続きが、途中の結果について `R` を言えばよい。 -/
theorem bind {f : α → Access β} (hf : ∀ a, P a → (f a).Ensures A R) :
    ∀ {m : Access α}, m.Ensures A P → (m >>= f).Ensures A R
  | .done a, h => hf a h
  | .supports _ _, h => fun b hb => bind hf (h b hb)
  | .get _ _, h => fun g hg => bind hf (h g hg)

theorem trivial : ∀ m : Access α, m.Ensures A fun _ => True
  | .done _ => True.intro
  | .supports _ next => fun b _ => trivial (next b)
  | .get _ next => fun g _ => trivial (next g)

theorem pure {a : α} (h : P a) : (Pure.pure a : Access α).Ensures A P := h

theorem askSupports (l : Language) : (Access.askSupports l).Ensures A (A.supports l) :=
  fun _ hb => hb

theorem askGrammar (l : Language) : (Access.askGrammar l).Ensures A (A.get l) :=
  fun _ hg => hg

variable {I : Registry → Prop} {r : Registry}

/-- **問いを一つ済ませても、残りの計算の結果は `P` をみたす。** -/
theorem step (hA : A.Kept I) (hr : I r) : ∀ {m : Access α}, m.Ensures A P →
    (m.step r).1.Ensures A P ∧ I (m.step r).2
  | .done _, h => ⟨h, hr⟩
  | .supports l _, h => ⟨h _ (hA.supports hr l), hr⟩
  | .get l _, h => ⟨h _ (hA.get hr l), hA.next hr l⟩

/-- **続けて済ませた結果は `P` をみたす。** -/
theorem run (hA : A.Kept I) : ∀ {m : Access α} {r : Registry}, I r → m.Ensures A P →
    P (m.run r).1 ∧ I (m.run r).2
  | .done _, _, hr, h => ⟨h, hr⟩
  | .supports l next, r, hr, h =>
    run (m := next (r.supports l)) hA hr (h _ (hA.supports hr l))
  | .get l next, r, hr, h =>
    run (m := next (r.get l).1) hA (hA.next hr l) (h _ (hA.get hr l))

end Ensures

/-- 続けた計算を済ませることは、順に済ませることである。 -/
theorem run_bind (f : α → Access β) : ∀ (m : Access α) (r : Registry),
    (m >>= f).run r = (f (m.run r).1).run (m.run r).2
  | .done _, _ => rfl
  | .supports l next, r => run_bind f (next (r.supports l)) r
  | .get l next, r => run_bind f (next (r.get l).1) (r.get l).2

end Access

end CodeSearch
