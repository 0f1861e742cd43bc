import CodeSearch.Keyword.Query
import CodeSearch.Proofs.Identifier
import CodeSearch.Proofs.Text.Blank

/-!
# 式の読み書き

引用符のない語を書いた式は、元の語に読み戻せる。読めるのは、そのように書いた式だけである。
利用者の文から集めた語に引用符は現れないので、文に何が書いてあっても、式は集めた語そのものに読み戻る。

* `read?_render` — 引用符のない語の式は、元の語に読み戻せる
* `read?_eq_some_iff` — 読めるのは、引用符のない語を書いた式だけである
* `notMem_queryWords` — 集めた語に、`a` より前の記号は現れない
* `read?_expression` — 利用者の文の式は、集めた語に読み戻る
* `expression_inert` — 利用者の文の式は、引用符で囲んだ語を ` OR ` でつないだものでしかない
-/

namespace CodeSearch.Keyword

/-! ## 書いて読む -/

theorem readQuoted_append {w : List Char} (hw : '"' ∉ w) (rest : List Char) :
    ∀ current : List Char,
    readQuoted current (w ++ '"' :: rest) = some (current.reverse ++ w, rest) := by
  induction w with
  | nil => simp [readQuoted]
  | cons c w ih =>
    intro current
    rw [List.mem_cons, not_or] at hw
    rw [List.cons_append, readQuoted, if_neg (Ne.symm hw.1), ih hw.2, List.reverse_cons,
      List.append_assoc, List.singleton_append]

theorem renderRest_nil : renderRest [] = [] := rfl

theorem renderRest_cons (w : List Char) (ws : List (List Char)) : renderRest (w :: ws)
    = ' ' :: 'O' :: 'R' :: ' ' :: '"' :: (w ++ '"' :: renderRest ws) := by
  show ' ' :: 'O' :: 'R' :: ' ' :: (quoted w ++ renderRest ws) = _
  simp [quoted]

theorem readRest_renderRest : ∀ {ws : List (List Char)}, (∀ w ∈ ws, '"' ∉ w) →
    readRest (renderRest ws) = some ws
  | [], _ => by
    rw [renderRest_nil, readRest]
  | w :: ws, h => by
    have hw := readQuoted_append (h w List.mem_cons_self) (renderRest ws) []
    have hws := readRest_renderRest fun v hv => h v (List.mem_cons_of_mem w hv)
    rw [renderRest_cons, readRest]
    split
    · next hnone =>
      rw [hw] at hnone
      cases hnone
    · next v rest hsome =>
      rw [hw, List.reverse_nil, List.nil_append] at hsome
      obtain ⟨rfl, rfl⟩ := Prod.mk.inj (Option.some.inj hsome)
      rw [hws, Option.map_some]

/-- **引用符のない語の式は、元の語に読み戻せる。** -/
theorem read?_render {ws : List (List Char)} (h : ∀ w ∈ ws, '"' ∉ w) :
    read? (render ws) = some ws := by
  cases ws with
  | nil => rfl
  | cons w ws =>
    have hw := readQuoted_append (h w List.mem_cons_self) (renderRest ws) []
    have hws := readRest_renderRest fun v hv => h v (List.mem_cons_of_mem w hv)
    have hchars : render (w :: ws) = '"' :: (w ++ '"' :: renderRest ws) := by
      simp [render, quoted]
    rw [hchars, read?, hw]
    simp [hws]

/-! ## 読めた式 -/

theorem readQuoted_eq_some : ∀ {current cs w rest : List Char},
    readQuoted current cs = some (w, rest) →
    ∃ body, w = current.reverse ++ body ∧ cs = body ++ '"' :: rest ∧ '"' ∉ body
  | current, c :: cs, w, rest, h => by
    unfold readQuoted at h
    split at h
    · next hquote =>
      obtain ⟨rfl, rfl⟩ := Prod.mk.inj (Option.some.inj h)
      exact ⟨[], by simp, by rw [hquote]; rfl, List.not_mem_nil⟩
    · next hquote =>
      obtain ⟨body, rfl, rfl, hbody⟩ := readQuoted_eq_some h
      refine ⟨c :: body, by simp, rfl, ?_⟩
      rw [List.mem_cons, not_or]
      exact ⟨Ne.symm hquote, hbody⟩

theorem eq_renderRest_of_readRest (cs : List Char) : ∀ {ws : List (List Char)},
    readRest cs = some ws → cs = renderRest ws ∧ ∀ w ∈ ws, '"' ∉ w := by
  fun_induction readRest cs with
  | case1 =>
    rintro _ ⟨⟩
    exact ⟨rfl, nofun⟩
  | case2 cs hnone => nofun
  | case3 cs w rest hsome ih =>
    intro ws h
    obtain ⟨ws, hws, rfl⟩ := Option.map_eq_some_iff.mp h
    obtain ⟨body, rfl, rfl, hbody⟩ := readQuoted_eq_some hsome
    obtain ⟨rfl, hquotes⟩ := ih hws
    exact ⟨by simp [renderRest_cons], List.forall_mem_cons.mpr ⟨hbody, hquotes⟩⟩
  | case4 => nofun

/-- **読めるのは、引用符のない語を書いた式だけである。** だから、一つの式は一通りにしか読めない。 -/
theorem read?_eq_some_iff {cs : List Char} {ws : List (List Char)} :
    read? cs = some ws ↔ cs = render ws ∧ ∀ w ∈ ws, '"' ∉ w := by
  constructor
  · intro h
    unfold read? at h
    split at h
    · cases h
      exact ⟨rfl, nofun⟩
    · split at h
      · cases h
      · next hsome =>
        obtain ⟨ws, hws, rfl⟩ := Option.map_eq_some_iff.mp h
        obtain ⟨body, rfl, rfl, hbody⟩ := readQuoted_eq_some hsome
        obtain ⟨rfl, hquotes⟩ := eq_renderRest_of_readRest _ hws
        exact ⟨by simp [render, quoted], List.forall_mem_cons.mpr ⟨hbody, hquotes⟩⟩
    · cases h
  · rintro ⟨rfl, hquotes⟩
    exact read?_render hquotes

/-! ## 利用者の文 -/

/-- 空白で区切った語から作った語に、`a` より前の記号は現れない。 -/
theorem notMem_plainWords {x : Char} (hx : isQueryChar x = false) (hlow : x.toNat < 97)
    {query word : String} (h : word ∈ plainWords query) : x ∉ word.toList := by
  obtain ⟨w, -, rfl⟩ := List.mem_map.mp h
  intro hmem
  rcases Text.mem_lowercase hmem with hin | hle
  · rw [String.toList_ofList] at hin
    have hkeep := (List.mem_filter.mp hin).2
    rw [hx] at hkeep
    cases hkeep
  · omega

theorem notMem_split {x : Char} (hx : isQueryChar x = false) (hlow : x.toNat < 97)
    {identifier word : String} (h : word ∈ Identifier.split identifier) : x ∉ word.toList := by
  intro hmem
  obtain ⟨c, -, halpha, hc⟩ := (Identifier.mem_split h).2 _ hmem
  rcases Text.mem_lowerChars hc with rfl | hle
  · rw [isQueryChar, halpha] at hx
    cases hx
  · omega

theorem mem_queryWords {query word : String} : word ∈ queryWords query ↔
    word ≠ "" ∧ (word ∈ plainWords query ∨ word ∈ Identifier.tokenize query) := by
  unfold queryWords
  rw [List.mem_eraseDups, List.mem_filter, List.mem_append, and_comm, decide_eq_true_eq]

/-- **集めた語に、`a` より前の記号は現れない。** -/
theorem notMem_queryWords {x : Char} (hx : isQueryChar x = false) (hlow : x.toNat < 97)
    {query word : String} (h : word ∈ queryWords query) : x ∉ word.toList := by
  rcases (mem_queryWords.mp h).2 with hplain | htoken
  · exact notMem_plainWords hx hlow hplain
  · obtain ⟨-, identifier, -, hword⟩ := Identifier.mem_tokenize.mp htoken
    exact notMem_split hx hlow hword

theorem quote_notMem_queryWords {query word : String} (h : word ∈ queryWords query) :
    '"' ∉ word.toList := notMem_queryWords (by decide) (by decide) h

/-- **利用者の文の式は、集めた語に読み戻る。** -/
theorem read?_expression (query : String) :
    read? (expression query).toList = some ((queryWords query).map String.toList) := by
  unfold expression
  rw [String.toList_ofList]
  refine read?_render fun w hw => ?_
  obtain ⟨word, hword, rfl⟩ := List.mem_map.mp hw
  exact quote_notMem_queryWords hword

/-! ## 式の形 -/

/-- 残す文字は空白ではない。 -/
theorem isBlank_of_isQueryChar {c : Char} (h : isQueryChar c = true) :
    Text.isBlank c = false := by
  rcases Bool.or_eq_true_iff.mp h with halpha | hunder
  · exact Text.isBlank_of_isAlphanumeric halpha
  · rw [beq_iff_eq.mp hunder]
    decide

/-- 集めた語に空白は現れない。 -/
theorem isBlank_of_mem_queryWords {query word : String} (h : word ∈ queryWords query) :
    ∀ c ∈ word.toList, Text.isBlank c = false := by
  rcases (mem_queryWords.mp h).2 with hplain | htoken
  · obtain ⟨w, -, rfl⟩ := List.mem_map.mp hplain
    refine Text.isBlank_lowercase fun c hc => ?_
    rw [String.toList_ofList] at hc
    exact isBlank_of_isQueryChar (List.mem_filter.mp hc).2
  · intro x hx
    obtain ⟨-, identifier, -, hword⟩ := Identifier.mem_tokenize.mp htoken
    obtain ⟨c, -, halpha, hxc⟩ := (Identifier.mem_split hword).2 x hx
    exact Text.isBlank_lowerChars (Text.isBlank_of_isAlphanumeric halpha) hxc

/-- 残す文字があれば、それを含む語から、空でない語が集まる。 -/
theorem queryWords_ne_nil {query : String} {c : Char} (hc : c ∈ query.toList)
    (hkeep : isQueryChar c = true) : queryWords query ≠ [] := by
  have hword : c ∈ (Text.blankWords query).flatten := by
    rw [Text.flatten_blankWords]
    exact List.mem_filter.mpr ⟨hc, by rw [isBlank_of_isQueryChar hkeep]; rfl⟩
  obtain ⟨w, hw, hcw⟩ := List.mem_flatten.mp hword
  have hne : Text.lowercase (String.ofList (w.filter isQueryChar)) ≠ "" := by
    intro hempty
    have hnil := congrArg String.toList (Text.lowercase_eq_empty.mp hempty)
    rw [String.toList_ofList] at hnil
    exact List.ne_nil_of_mem (List.mem_filter.mpr ⟨hcw, hkeep⟩) hnil
  exact List.ne_nil_of_mem (mem_queryWords.mpr ⟨hne, Or.inl (List.mem_map_of_mem hw)⟩)

/-- 語が集まるのは、文に残す文字があるときだけである。 -/
theorem exists_of_mem_queryWords {query word : String} (h : word ∈ queryWords query) :
    ∃ c ∈ query.toList, isQueryChar c = true := by
  obtain ⟨hne, hplain | htoken⟩ := mem_queryWords.mp h
  · obtain ⟨w, hw, rfl⟩ := List.mem_map.mp hplain
    have hkept : w.filter isQueryChar ≠ [] := fun hnil => by
      rw [hnil] at hne
      exact hne rfl
    obtain ⟨c, hc⟩ := List.exists_mem_of_ne_nil _ hkept
    obtain ⟨hcw, hkeep⟩ := List.mem_filter.mp hc
    have hin := List.mem_flatten.mpr ⟨w, hw, hcw⟩
    rw [Text.flatten_blankWords] at hin
    exact ⟨c, (List.mem_filter.mp hin).1, hkeep⟩
  · obtain ⟨-, identifier, hi, hword⟩ := Identifier.mem_tokenize.mp htoken
    obtain ⟨x, hx⟩ := List.exists_mem_of_ne_nil _ (mt String.toList_eq_nil_iff.mp hne)
    obtain ⟨c, hc, halpha, -⟩ := (Identifier.mem_split hword).2 x hx
    exact ⟨c, Identifier.mem_of_mem_scan hi hc, by rw [isQueryChar, halpha, Bool.true_or]⟩

/-- 語を引用符で囲んだ文字列。 -/
def quote (word : String) : String := "\"" ++ word ++ "\""

theorem toList_intercalate_quote (word : String) : ∀ words : List String,
    (" OR ".intercalate ((word :: words).map quote)).toList
      = quoted word.toList ++ renderRest (words.map String.toList)
  | [] => by simp [quote, quoted, renderRest_nil]
  | next :: words => by
    have ih := toList_intercalate_quote next words
    rw [List.map_cons] at ih
    rw [List.map_cons, List.map_cons, String.intercalate_cons_cons, String.toList_append,
      String.toList_append, ih]
    simp [quote, quoted, renderRest_cons]

/-- 式は、引用符で囲んだ語を ` OR ` でつないだものである。 -/
theorem expression_eq (query : String) :
    expression query = " OR ".intercalate ((queryWords query).map quote) := by
  unfold expression
  cases queryWords query with
  | nil => rfl
  | cons word words =>
    rw [List.map_cons, render, ← toList_intercalate_quote, String.ofList_toList]

theorem expression_eq_empty {query : String} : expression query = "" ↔ queryWords query = [] := by
  rw [expression_eq]
  cases queryWords query with
  | nil => exact ⟨fun _ => rfl, fun _ => rfl⟩
  | cons word words =>
    refine ⟨fun h => ?_, nofun⟩
    have hnil := congrArg String.toList h
    rw [toList_intercalate_quote] at hnil
    cases hnil

/--
**利用者の文の式は、引用符で囲んだ語を ` OR ` でつないだものでしかない。**

* 語に重なりはなく、空の語も、引用符や空白を含む語もない。
* 語は、空白で区切った語から英数字と下線だけを残して小文字にした空でないものと、文の語である。
* 式を読むと、その語の列だけが読み戻る。
* 式が空なのは、文に英数字も下線もないときに限る。
-/
theorem expression_inert (query : String) :
    expression query = " OR ".intercalate ((queryWords query).map quote)
    ∧ (queryWords query).Nodup
    ∧ (∀ word ∈ queryWords query,
      word ≠ "" ∧ '"' ∉ word.toList ∧ ∀ c ∈ word.toList, Text.isBlank c = false)
    ∧ (∀ word, word ∈ queryWords query ↔ word ≠ "" ∧
      ((∃ w ∈ Text.blankWords query, word = Text.lowercase (String.ofList
        (w.filter fun c => Text.isAlphanumeric c || c == '_')))
        ∨ word ∈ Identifier.tokenize query))
    ∧ (∀ words : List (List Char), read? (expression query).toList = some words
      ↔ words = (queryWords query).map String.toList)
    ∧ (expression query = "" ↔
      ∀ c ∈ query.toList, Text.isAlphanumeric c = false ∧ c ≠ '_') := by
  refine ⟨expression_eq query, Identifier.nodup_eraseDups _, fun word hword => ?_, fun word => ?_,
    fun words => ?_, ?_⟩
  · exact ⟨(mem_queryWords.mp hword).1, quote_notMem_queryWords hword,
      isBlank_of_mem_queryWords hword⟩
  · rw [mem_queryWords, plainWords, List.mem_map]
    simp only [eq_comm]
    rfl
  · rw [read?_expression, Option.some.injEq, eq_comm]
  · rw [expression_eq_empty]
    constructor
    · intro hnil c hc
      have hdrop : isQueryChar c = false :=
        Bool.eq_false_iff.mpr fun hkeep => queryWords_ne_nil hc hkeep hnil
      simpa [isQueryChar] using hdrop
    · intro hnone
      refine List.eq_nil_iff_forall_not_mem.mpr fun word hword => ?_
      obtain ⟨c, hc, hkeep⟩ := exists_of_mem_queryWords hword
      obtain ⟨halpha, hunder⟩ := hnone c hc
      simp [isQueryChar, halpha, hunder] at hkeep

/-- 引用符も `OR` も否定の記号も、語になるか捨てられるかである。 -/
theorem expression_inert_operators :
    queryWords "b\" OR -Ab" = ["b", "or", "ab"]
    ∧ expression "b\" OR -Ab" = "\"b\" OR \"or\" OR \"ab\""
    ∧ read? (expression "b\" OR -Ab").toList = some ["b".toList, "or".toList, "ab".toList]
    ∧ ("or" ≠ "" ∧ '"' ∉ "or".toList ∧ ∀ c ∈ "or".toList, Text.isBlank c = false) := by
  have hwords : queryWords "b\" OR -Ab" = ["b", "or", "ab"] := by decide
  obtain ⟨hform, -, hclean, -, hread, -⟩ := expression_inert "b\" OR -Ab"
  rw [hwords] at hform hclean hread
  exact ⟨hwords, hform.trans (by decide), (hread _).mpr rfl, hclean "or" (by simp)⟩

end CodeSearch.Keyword
