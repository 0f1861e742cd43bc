import CodeSearch.Proofs.Keyword.Token
import CodeSearch.Proofs.Sorting

/-!
# 手元の全文索引は約束を守る

手元の全文索引（`FullText.builtin`）は、持っている行を検索語に切り、句のある行を点の高い順に並べる。
並べ替えるだけなので、見つかる行は句のある行そのものである。点は番号によらず、番号を比べるのは
同点のときだけなので、順を変えずに番号を付け替えても、並ぶ順は変わらない。

* `externalContent_builtin`
* `wordSearch_builtin`
* `orderOnly_builtin`
-/

namespace CodeSearch.Keyword

/-! ## 式に合う中身 -/

/-- 式に、二つの欄の中身が合うか。読めない式には何も合わない。 -/
def builtinHits : Hits := fun expression text terms =>
  match read? expression.toList with
  | some ws =>
    (Entry.ofDocument { row := 0, text, terms }).matchesAny
      (ws.map fun w => tokens (String.ofList w))
  | none => false

theorem read?_anyOf {words : List String} (h : ∀ w ∈ words, Quotable w) :
    read? (anyOf words).toList = some (words.map String.toList) := by
  have hquotes : ∀ w ∈ words.map String.toList, '"' ∉ w := by
    intro w hw
    obtain ⟨word, hword, rfl⟩ := List.mem_map.mp hw
    exact (h word hword).quote_notMem
  rw [← read?_render hquotes]
  cases words with
  | nil => rfl
  | cons word words =>
    unfold anyOf
    rw [toList_intercalate_quote]
    rfl

/-- 探す句は、式の語を一つずつ検索語に切ったものである。 -/
theorem builtinHits_anyOf {words : List String} (h : ∀ w ∈ words, Quotable w)
    (text terms : String) : builtinHits (anyOf words) text terms
      = (Entry.ofDocument { row := 0, text, terms }).matchesAny (words.map tokens) := by
  unfold builtinHits
  rw [read?_anyOf h]
  simp only [List.map_map, Function.comp_def, String.ofList_toList]

theorem search_builtin {words : List String} (h : ∀ w ∈ words, Quotable w) (log : List Command) :
    FullText.builtin.search log (anyOf words)
      = .ok (matching ((documents log).map Entry.ofDocument) (words.map tokens)) := by
  unfold FullText.builtin
  simp only []
  rw [read?_anyOf h]
  simp only [List.map_map, Function.comp_def, String.ofList_toList]

theorem matching_perm (entries : List Entry) (ps : List Phrase) :
    (matching entries ps).Perm ((entries.filter (·.matchesAny ps)).map (·.row)) := by
  unfold matching ranked
  refine ((stableSort_perm _ _).map _).trans ?_
  rw [List.map_map]
  exact List.Perm.refl _

/-- **手元の全文索引の答えは、持っている行のうち式に合うものである。** -/
theorem externalContent_builtin : ExternalContent .builtin builtinHits where
  search_perm := by
    intro log words _ _ hwords
    refine ⟨_, search_builtin hwords log, (matching_perm _ _).trans ?_⟩
    simp only [List.filter_map, List.map_map, Function.comp_def, builtinHits_anyOf hwords]
    exact List.Perm.refl _

/-- **語はそのまま検索語になり、一語の句として探される。** -/
theorem wordSearch_builtin : WordSearch builtinHits tokens where
  tokens_plain := tokens_intercalate
  hits_anyOf := by
    intro words w t text terms hwords hw htokens hin
    rw [builtinHits_anyOf hwords]
    unfold Entry.matchesAny
    rw [List.any_eq_true]
    refine ⟨[t], htokens ▸ List.mem_map_of_mem hw, ?_⟩
    rw [decide_eq_true_eq]
    unfold Entry.frequency Entry.ofDocument
    rcases hin with hin | hin
    · exact Nat.lt_of_lt_of_le (occurrences_singleton hin) (Nat.le_add_right _ _)
    · exact Nat.lt_of_lt_of_le (occurrences_singleton hin) (Nat.le_add_left _ _)

/-! ## 番号の付け替え -/

/-- 番号を付け替えた項目。 -/
def Entry.renumber (φ : Nat → Nat) (e : Entry) : Entry := { e with row := φ e.row }

variable {φ : Nat → Nat}

theorem rarity_renumber (es : List Entry) (p : Phrase) :
    rarity (es.map (Entry.renumber φ)) p = rarity es p := by
  have hhits : ((es.map (Entry.renumber φ)).filter fun e => 0 < e.frequency p).length
      = (es.filter fun e => 0 < e.frequency p).length := by
    rw [List.filter_map, List.length_map]
    rfl
  unfold rarity
  rw [hhits, List.length_map]

theorem averageSize_renumber (es : List Entry) :
    averageSize (es.map (Entry.renumber φ)) = averageSize es := by
  unfold averageSize
  rw [List.map_map, List.length_map]
  rfl

/-- 番号を比べるのは同点のときだけで、順を変えなければ大小は変わらない。 -/
theorem ranked_renumber (hφ : StrictMono φ) (scored : List (Float × Entry)) :
    ranked (scored.map (Prod.map id (Entry.renumber φ)))
      = (ranked scored).map (Prod.map id (Entry.renumber φ)) := by
  unfold ranked
  rw [stableSort_map]
  simp only [Prod.map_fst, Prod.map_snd, id_eq, Entry.renumber, hφ.lt_iff_lt]

theorem matching_renumber (hφ : StrictMono φ) (es : List Entry) (ps : List Phrase) :
    matching (es.map (Entry.renumber φ)) ps = (matching es ps).map φ := by
  have hfound : (es.map (Entry.renumber φ)).filter (·.matchesAny ps)
      = (es.filter (·.matchesAny ps)).map (Entry.renumber φ) := by
    rw [List.filter_map]
    rfl
  -- 点は番号によらない
  have hscored : ∀ (average : Float) (weighted : List (Phrase × Float)) (found : List Entry),
      (found.map (Entry.renumber φ)).map (fun e => (score average weighted e, e))
        = (found.map fun e => (score average weighted e, e)).map
          (Prod.map id (Entry.renumber φ)) := by
    intro average weighted found
    rw [List.map_map, List.map_map]
    rfl
  unfold matching
  simp only [rarity_renumber, averageSize_renumber]
  rw [hfound, hscored, ranked_renumber hφ, List.map_map, List.map_map]
  rfl

/-- **番号を付け替えれば、見つかる行の番号も付け替わる。** -/
theorem orderOnly_builtin : OrderOnly .builtin := by
  intro log log' φ hφ _ _ hdocuments expression
  have hentries : (documents log').map Entry.ofDocument
      = ((documents log).map Entry.ofDocument).map (Entry.renumber φ) := by
    rw [hdocuments, List.map_map, List.map_map]
    rfl
  unfold FullText.builtin
  simp only []
  rw [hentries]
  split
  · rw [matching_renumber hφ]
    rfl
  · rfl

end CodeSearch.Keyword
