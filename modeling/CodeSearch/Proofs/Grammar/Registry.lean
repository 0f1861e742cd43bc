import CodeSearch.Proofs.Grammar.Access

/-!
# 保管は読み込みと食い違わない

保管が覚えているのは読み込みの結果だけなので、求めた文法はいつも読み込みの結果である。
扱えるかという問いの答えのほうは状態によるが、扱えないと答えるのは、読み込めない言語についてだけである。
だから、文法を求めるだけの計算の結果は、保管の状態によらない。

* `Agrees` — 保管が読み込みと食い違わないこと
* `kept_truthful` — 食い違わない保管の答え方
* `Access.Determined` — 保管の状態によらず結果の決まる計算
-/

namespace CodeSearch

namespace Registry

/-- 保管が `loader` で読み込み、覚えた結果が読み込みと食い違わないこと。 -/
structure Agrees (loader : Loader) (r : Registry) : Prop where
  loader_eq : r.loader = loader
  loaded : ∀ l g, r.loaded.lookup l = some g → g = loader.load l

/-- 求められた文法として返すもの。 -/
def served (loader : Loader) (l : Language) : Option Grammar :=
  if l = .unknown then none else loader.load l

variable {loader : Loader} {r : Registry}

theorem agrees_ofLoader (loader : Loader) : Agrees loader (.ofLoader loader) where
  loader_eq := rfl
  loaded := by
    intro l g h
    cases h

theorem Agrees.clear (h : Agrees loader r) : Agrees loader r.clear where
  loader_eq := h.loader_eq
  loaded := nofun

theorem Agrees.reset (h : Agrees loader r) : Agrees loader r.reset where
  loader_eq := h.loader_eq
  loaded := nofun

/-- 求めた文法は、読み込みの結果である。 -/
theorem Agrees.get_fst (h : Agrees loader r) (l : Language) : (r.get l).1 = served loader l := by
  unfold get served
  by_cases hl : l = .unknown
  · rw [if_pos hl, if_pos hl]
  · rw [if_neg hl, if_neg hl]
    cases hk : r.loaded.lookup l with
    | some known => exact h.loaded l known hk
    | none =>
      show r.loader.load l = loader.load l
      rw [h.loader_eq]

theorem Agrees.get (h : Agrees loader r) (l : Language) : Agrees loader (r.get l).2 := by
  unfold Registry.get
  by_cases hl : l = .unknown
  · rw [if_pos hl]
    exact h
  · rw [if_neg hl]
    cases hk : r.loaded.lookup l with
    | some known => exact h
    | none =>
      -- 新しく覚えた結果と、前から覚えている結果に分ける
      refine ⟨h.loader_eq, ?_⟩
      intro l' g hg
      by_cases he : l' = l
      · subst he
        simp only [List.lookup_cons, beq_self_eq_true, Option.some.injEq] at hg
        rw [← hg, h.loader_eq]
      · have hne : (l' == l) = false := by simpa using he
        simp only [List.lookup_cons, hne] at hg
        exact h.loaded l' g hg

/-- 扱えないと答えるのは、求めても文法が返らない言語についてだけである。 -/
theorem Agrees.served_eq_none (h : Agrees loader r) {l : Language} (hs : r.supports l = false) :
    served loader l = none := by
  unfold supports at hs
  unfold served
  by_cases hl : l = .unknown
  · rw [if_pos hl]
  · rw [if_neg hl]
    have hne : (l != .unknown) = true := by simpa using hl
    rw [hne, Bool.true_and] at hs
    cases hk : r.loaded.lookup l with
    | none => rw [hk] at hs; cases hs
    | some known =>
      rw [hk] at hs
      rw [← h.loaded l known hk]
      exact Option.isSome_eq_false_iff.mp hs |> Option.isNone_iff_eq_none.mp

/-- 読み込みと食い違わない保管の答え方。 -/
def truthful (loader : Loader) : Answers where
  supports := fun l b => b = false → served loader l = none
  get := fun l g => g = served loader l

/-- **読み込みと食い違わない保管の答え方は `truthful` に従い、答えた後も食い違わない。** -/
theorem kept_truthful (loader : Loader) : (truthful loader).Kept (Agrees loader) where
  supports := fun h _ => h.served_eq_none
  get := fun h l => h.get_fst l
  next := fun h l => h.get l

end Registry

/-! ## 結果の決まる計算 -/

namespace Access

open Registry

variable {α β : Type} {loader : Loader}

/-- 読み込みと食い違わない保管がどう答えても、結果が同じであること。 -/
def Determined (loader : Loader) (m : Access α) : Prop :=
  ∃ a, m.Ensures (truthful loader) (· = a)

theorem determined_pure (a : α) : (pure a : Access α).Determined loader := ⟨a, rfl⟩

theorem determined_askGrammar (l : Language) : (askGrammar l).Determined loader :=
  ⟨served loader l, .askGrammar l⟩

theorem Determined.bind {m : Access α} {f : α → Access β} (hm : m.Determined loader)
    (hf : ∀ a, (f a).Determined loader) : (m >>= f).Determined loader := by
  obtain ⟨a, ha⟩ := hm
  obtain ⟨b, hb⟩ := hf a
  refine ⟨b, ha.bind ?_⟩
  rintro _ rfl
  exact hb

/-- 結果の決まる計算の結果は、何も読み込んでいない保管で求めたものである。 -/
theorem Determined.ensures {m : Access α} (h : m.Determined loader) :
    m.Ensures (truthful loader) (· = (m.run (.ofLoader loader)).1) := by
  obtain ⟨a, ha⟩ := h
  have hrun := (ha.run (kept_truthful loader) (agrees_ofLoader loader)).1
  rwa [hrun]

end Access

end CodeSearch
