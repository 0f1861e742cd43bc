import CodeSearch.Keyword.FullText
import CodeSearch.Proofs.Keyword.Expression
import CodeSearch.Proofs.Text.LetterCase
import Mathlib.Data.List.Induction
import Mathlib.Data.List.Nodup
import Mathlib.Order.Monotone.Basic

/-!
# 全文索引の約束

全文索引は外の仕組みなので、どう作られているかは分からない。頼ってよいのは、次の三つの約束である。
どれも、正しい命令だけを送ったとき（`Legal`）の約束である。足すのは持っていない行だけ、消すのは
足したときと同じ中身の行だけでなければならない。

* `ExternalContent` — 答えは、持っている行のうち式に合うものを一つずつ並べたものである
* `WordSearch` — 引用符で囲んだ語は、その検索語のある行に合う
* `OrderOnly` — 答えは、持っている行と、その番号の順だけで決まる

式に合うかどうか（`Hits`）は、二つの欄の中身だけで決まる。
-/

namespace CodeSearch.Keyword

/-! ## 正しい命令 -/

/-- 行 `ds` を持つ索引に送ってよい命令であること。 -/
def Command.Allowed (ds : List Document) : Command → Prop
  | .insert d => d.row ∉ ds.map (·.row)
  | .delete d => d ∈ ds
  | .rebuild all => (all.map (·.row)).Nodup

/-- 作ったばかりの索引に、送ってよい命令だけを順に送ったこと。 -/
inductive Legal : List Command → Prop
  | nil : Legal []
  | snoc {log : List Command} {c : Command} (h : Legal log) (hc : c.Allowed (documents log)) :
    Legal (log ++ [c])

@[simp] theorem documents_append (log rest : List Command) :
    documents (log ++ rest) = rest.foldl Command.apply (documents log) :=
  List.foldl_append

/-! ## 約束 -/

/-- 式に、二つの欄の中身が合うか。 -/
abbrev Hits := String → String → String → Bool

/-- 引用符で囲める語であること。NUL は式の終わりとみなされる。 -/
structure Quotable (word : String) : Prop where
  ne_empty : word ≠ ""
  quote_notMem : '"' ∉ word.toList
  nul_notMem : '\x00' ∉ word.toList

/-- 引用符で囲んだ語のどれかを求める式。 -/
def anyOf (words : List String) : String := " OR ".intercalate (words.map quote)

/-- **索引の答えは、持っている行のうち式に合うものを、ちょうど一つずつ並べたものである。** 並べる順は問わない。 -/
structure ExternalContent (F : FullText) (hits : Hits) : Prop where
  search_perm : ∀ {log : List Command} {words : List String}, Legal log → words ≠ [] →
    (∀ w ∈ words, Quotable w) → ∃ ids, F.search log (anyOf words) = .ok ids
      ∧ ids.Perm (((documents log).filter fun d => hits (anyOf words) d.text d.terms).map (·.row))

/-- 空でなく、ASCII の小文字と数字だけからなる語。 -/
def PlainWord (word : String) : Prop := word ≠ "" ∧ ∀ x ∈ word.toList, Text.isPlain x = true

/-- **語はそのまま検索語になり、検索語は引用符で囲んだ語に合う。** `tokens` は文字列を検索語に切る。 -/
structure WordSearch (hits : Hits) (tokens : String → List String) : Prop where
  /-- ASCII の小文字と数字だけの語を空白で区切ったものは、その語に切れる。 -/
  tokens_plain : ∀ {words : List String}, (∀ w ∈ words, PlainWord w) →
    tokens (" ".intercalate words) = words
  /-- 式の語が一つの検索語に切れ、それが欄のどちらかにあれば合う。 -/
  hits_anyOf : ∀ {words : List String} {w t text terms : String}, (∀ w ∈ words, Quotable w) →
    w ∈ words → tokens w = [t] → t ∈ tokens text ∨ t ∈ tokens terms →
    hits (anyOf words) text terms = true

/-- 行の番号を付け替えた中身。 -/
def Document.renumber (φ : Nat → Nat) (d : Document) : Document := { d with row := φ d.row }

/-- **索引の答えは、持っている行と、その番号の順だけで決まる。** 順を変えずに番号を付け替えた行を持つ
索引は、付け替えた番号を答える。 -/
def OrderOnly (F : FullText) : Prop :=
  ∀ {log log' : List Command} {φ : Nat → Nat}, StrictMono φ → Legal log → Legal log' →
    documents log' = (documents log).map (Document.renumber φ) →
    ∀ expression, F.search log' expression = (F.search log expression).map (List.map φ)

/-! ## 番号を付け替えた命令 -/

namespace Command

/-- 行の番号を付け替えた命令。 -/
def renumber (φ : Nat → Nat) : Command → Command
  | .insert d => .insert (d.renumber φ)
  | .delete d => .delete (d.renumber φ)
  | .rebuild ds => .rebuild (ds.map (Document.renumber φ))

end Command

variable {φ : Nat → Nat}

theorem Document.renumber_injective (hφ : Function.Injective φ) :
    Function.Injective (Document.renumber φ) := by
  rintro ⟨i, text, terms⟩ ⟨j, text', terms'⟩ h
  simp only [renumber, Document.mk.injEq] at h ⊢
  exact ⟨hφ h.1, h.2⟩

theorem map_row_renumber (ds : List Document) :
    (ds.map (Document.renumber φ)).map (·.row) = (ds.map (·.row)).map φ := by
  rw [List.map_map, List.map_map]
  rfl

theorem Command.apply_renumber (hφ : Function.Injective φ) (ds : List Document) (c : Command) :
    (c.renumber φ).apply (ds.map (Document.renumber φ))
      = (c.apply ds).map (Document.renumber φ) := by
  cases c with
  | insert d =>
    show ds.map _ ++ [d.renumber φ] = (ds ++ [d]).map _
    rw [List.map_append]
    rfl
  | delete d => exact (List.map_erase (Document.renumber_injective hφ) ds).symm
  | rebuild all => rfl

/-- **付け替えた命令を送った索引は、付け替えた行を持つ。** -/
theorem documents_renumber (hφ : Function.Injective φ) (log : List Command) :
    documents (log.map (Command.renumber φ)) = (documents log).map (Document.renumber φ) := by
  induction log using List.reverseRecOn with
  | nil => rfl
  | append_singleton log c ih =>
    rw [List.map_append, documents_append, documents_append, ih]
    exact Command.apply_renumber hφ _ c

theorem Command.Allowed.renumber (hφ : Function.Injective φ) {ds : List Document} {c : Command}
    (h : c.Allowed ds) : (c.renumber φ).Allowed (ds.map (Document.renumber φ)) := by
  cases c with
  | insert d =>
    show φ d.row ∉ (ds.map _).map _
    rw [map_row_renumber, List.mem_map_of_injective hφ]
    exact h
  | delete d => exact List.mem_map_of_mem h
  | rebuild all =>
    show ((all.map _).map _).Nodup
    rw [map_row_renumber]
    exact List.Nodup.map hφ h

/-- 付け替えた命令も正しい。 -/
theorem Legal.renumber (hφ : Function.Injective φ) {log : List Command} (h : Legal log) :
    Legal (log.map (Command.renumber φ)) := by
  induction h with
  | nil => exact .nil
  | snoc _ hc ih =>
    rw [List.map_append]
    refine ih.snoc ?_
    rw [documents_renumber hφ]
    exact hc.renumber hφ

end CodeSearch.Keyword
