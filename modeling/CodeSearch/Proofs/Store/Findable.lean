import CodeSearch.Proofs.Store.Keywords

/-!
# 識別子を分けた語で見つかる

本文の側では、二語以上に分かれる識別子の語を空白でつないで欄に書く。問い合わせの側では、文の識別子の語を
引用符で囲んで式にする。どちらの語も ASCII の小文字と数字だけなので、全文索引はどちらもそのまま一つの
検索語に切る（`WordSearch`）。だから、同じ語どうしは必ず出会う。

* `matchesText_of_mem` — 本文と問い合わせに共通の語があれば、本文は問い合わせに合う
* `keywordSearch_finds_parts` — 識別子を分けた語のどれで探しても、その断片が見つかる
-/

namespace CodeSearch

namespace Keyword

theorem plainWord_of_mem_allTerms {text word : String} (h : word ∈ Identifier.allTerms text) :
    PlainWord word := by
  obtain ⟨-, identifier, hi, -, hword⟩ := Identifier.mem_allTerms.mp h
  exact Identifier.plain_of_scan hi hword

theorem plainWord_of_mem_tokenize {text word : String} (h : word ∈ Identifier.tokenize text) :
    PlainWord word := by
  obtain ⟨-, identifier, hi, hword⟩ := Identifier.mem_tokenize.mp h
  exact Identifier.plain_of_scan hi hword

variable {hits : Hits} {tokens : String → List String}

/-- **本文と問い合わせに共通の語があれば、本文は問い合わせに合う。** -/
theorem WordSearch.matchesText_of_mem (hT : WordSearch hits tokens) {query text word : String}
    (hterm : word ∈ Identifier.allTerms text) (hquery : word ∈ Identifier.tokenize query) :
    matchesText hits query text = true := by
  have hplain := plainWord_of_mem_tokenize hquery
  have hqueried : word ∈ queryWords query := mem_queryWords.mpr ⟨hplain.1, Or.inr hquery⟩
  -- 問い合わせの語は一つの検索語に、語の欄はその語を含む検索語の列に切れる
  have hasked : tokens word = [word] := by
    have halone := hT.tokens_plain (List.forall_mem_singleton.mpr hplain)
    rwa [String.intercalate_singleton] at halone
  have hwritten : word ∈ tokens (" ".intercalate (Identifier.allTerms text)) := by
    rw [hT.tokens_plain fun w hw => plainWord_of_mem_allTerms hw]
    exact hterm
  have hhit : hits (anyOf (queryWords query)) text
      (" ".intercalate (Identifier.allTerms text)) = true :=
    hT.hits_anyOf (fun w hw => quotable_of_mem_queryWords hw) hqueried hasked (Or.inr hwritten)
  have hne : expression query ≠ "" := fun hempty =>
    List.ne_nil_of_mem hqueried (expression_eq_empty.mp hempty)
  unfold matchesText
  rw [bne_iff_ne.mpr hne, Bool.true_and]
  rwa [anyOf, ← expression_eq] at hhit

end Keyword

namespace Store

/--
**識別子を分けた語のどれで探しても、その断片が見つかる。**

全文索引が約束を守り、語をそのまま検索語に切るなら、語の索引がある保存先では、二語以上に分かれる識別子が
本文にある断片は、その識別子の二文字以上の語を文の識別子の語に含むどの問い合わせでも見つかる。
行の数だけ求めれば、必ず答えに入る。
-/
theorem keywordSearch_finds_parts {F : Keyword.FullText} {hits : Keyword.Hits}
    {tokens : String → List String} (hF : Keyword.ExternalContent F hits)
    (hT : Keyword.WordSearch hits tokens) {s : Store} (h : s.Reachable)
    (hk : s.hasKeywords = true) {r : Row} (hr : r ∈ s.rows) {identifier word query : String}
    (hidentifier : identifier ∈ Identifier.scan r.text)
    (hcompound : 2 ≤ (Identifier.split identifier).length)
    (hword : word ∈ Identifier.split identifier) (hlong : 2 ≤ word.length)
    (hquery : word ∈ Identifier.tokenize query) {limit : Nat} (hlimit : s.rows.length ≤ limit) :
    ∃ rows, s.keywordRows F query limit = .ok rows ∧ r ∈ rows
      ∧ s.keywordSearch F query limit = .ok (rows.map (·.chunk))
      ∧ r.chunk ∈ rows.map (·.chunk) := by
  have hisLong : Identifier.isLong word = true := by
    unfold Identifier.isLong
    rw [decide_eq_true_eq]
    omega
  have hterm : word ∈ Identifier.allTerms r.text :=
    Identifier.mem_allTerms.mpr ⟨hisLong, identifier, hidentifier, hcompound, hword⟩
  have hmatch := hT.matchesText_of_mem hterm hquery
  obtain ⟨rows, hrows, hperm⟩ := keywordRows_perm hF h hk query hlimit
  have hrow : r ∈ rows := hperm.mem_iff.mpr (List.mem_filter.mpr ⟨hr, hmatch⟩)
  exact ⟨rows, hrows, hrow, keywordSearch_eq hrows, List.mem_map_of_mem hrow⟩

/-- 複合した識別子のある断片。 -/
def responder : Chunk :=
  { Chunk.ofSpan "src/http.ts" 3 5 "function parseHTTPResponse() {}" .function "typescript" 0 with
    vector := some [0.0, 1.0] }

/-- `responder` を書いた保存先。 -/
def documented : Store := (Operation.insert [responder]).apply (.empty true)

/-- `parseHTTPResponse` のある断片は、識別子 `lastResponse` のある文で見つかる。 -/
theorem keywordSearch_finds_parts_response :
    Identifier.split "parseHTTPResponse" = ["parse", "http", "response"]
    ∧ ∃ r ∈ documented.rows, r.name = "src/http.ts:3-5"
      ∧ ∃ found, documented.keywordSearch .builtin "where is lastResponse read?" 1 = .ok found
        ∧ r.chunk ∈ found := by
  have hreach : documented.Reachable := (Reachable.empty true).step _
  have hrows : documented.rows = [Row.ofChunk 1 responder [0.0, 1.0]] := rfl
  have hsplit : Identifier.split "parseHTTPResponse" = ["parse", "http", "response"] := by
    decide +kernel
  have hidentifier : "parseHTTPResponse" ∈ Identifier.scan responder.text := by decide +kernel
  have hquery : "response" ∈ Identifier.tokenize "where is lastResponse read?" := by
    decide +kernel
  have hrow : Row.ofChunk 1 responder [0.0, 1.0] ∈ documented.rows := by
    rw [hrows]
    exact List.mem_singleton_self _
  have hlimit : documented.rows.length ≤ 1 := by
    rw [hrows]
    exact Nat.le_refl 1
  obtain ⟨rows, -, -, hsearch, hfound⟩ := keywordSearch_finds_parts
    Keyword.externalContent_builtin Keyword.wordSearch_builtin hreach rfl hrow hidentifier
    (by rw [hsplit]; decide) (by rw [hsplit]; decide) (by decide) hquery hlimit
  exact ⟨hsplit, _, hrow, rfl, _, hsearch, hfound⟩

end Store

end CodeSearch
