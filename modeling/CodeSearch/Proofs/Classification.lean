import CodeSearch.Classification
import CodeSearch.Proofs.Text.Line

/-!
# 前に付いた注釈と推し量り

種類を推し量るときに見るのは、最初の意味のある行である。その前にある空行、一行の注釈や修飾、塊の注釈は、
いくつどう並んでいても答えを変えない。塊の注釈の中の行は何に見えてもよい。行を順に見ていく走査は、
一まとまり（`Noise`）を読むたびに初めの状態へ戻るからである。

* `isNoise_iff` — 一行で読み飛ばすのは、空白だけの行と、一行の注釈や修飾である
* `significantLine_noise` — 一まとまりを読むと、走査は初めの状態に戻る
* `significantLine_eq_some_iff` — 走査が見つけるのは、まとまりの並びに続く、最初の意味のある行である
* `classify_noise` — 前にまとまりを並べても、推し量る種類は変わらない
-/

namespace CodeSearch.Classification

variable {l line last : String} {body item ls rest : List String} {items : List (List String)}

/-! ## 読み飛ばすもの -/

/-- 両端の空白を落とした行が `mark` で始まること。 -/
def Opens (mark line : String) : Prop := mark.toList <+: Text.trim line.toList

/-- 一行で読み飛ばす行。 -/
inductive Passing (line : String) : Prop where
  | blank : Text.allBlank line = true → Passing line
  | marked {mark : String} : mark ∈ ["//", "@", "*", "<!--"] → Opens mark line → Passing line
  | hash : Opens "#" line → ¬Opens "#include" line → ¬Opens "#define" line → Passing line

/-- 一まとまりに読み飛ばす行の並び。 -/
inductive Noise : List String → Prop where
  | line {l : String} : Passing l → Noise [l]
  /-- 塊の注釈。始める行から、その行も含めて、閉じる印のある最初の行までである。 -/
  | comment {body : List String} {last : String} :
      (∀ first ∈ (body ++ [last]).head?, Opens "/*" first) →
      (∀ l ∈ body, Text.occursIn "*/" l = false) → Text.occursIn "*/" last = true →
      Noise (body ++ [last])

/-- 読み飛ばさない行。 -/
def Significant (line : String) : Prop := ¬Passing line ∧ ¬Opens "/*" line

/-- `line` が、行の列 `ls` の頭に並ぶまとまりのすぐ後にある、読み飛ばさない行であること。 -/
def Heads (line : String) (ls : List String) : Prop :=
  ∃ (items : List (List String)) (rest : List String), (∀ item ∈ items, Noise item)
    ∧ ls = items.flatten ++ line :: rest ∧ Significant line

theorem startsWith_trim {mark : String} :
    Text.startsWith mark (Text.trim line.toList) = true ↔ Opens mark line := by
  unfold Text.startsWith Opens
  exact List.isPrefixOf_iff_prefix

theorem closesComment_trim (line : String) :
    closesComment (Text.trim line.toList) = Text.occursIn "*/" line := by
  have hmark : ∀ c ∈ ['*', '/'], Text.isBlank c = false :=
    List.forall_mem_cons.mpr ⟨rfl, List.forall_mem_singleton.mpr rfl⟩
  exact Text.hasInfix_trim (List.cons_ne_nil _ _) hmark line.toList

/-- **一行で読み飛ばすのは、空白だけの行と、一行の注釈や修飾である。** -/
theorem isNoise_iff : isNoise (Text.trim line.toList) = true ↔ Passing line := by
  have hblank : (Text.trim line.toList).isEmpty = true ↔ Text.allBlank line = true := by
    rw [List.isEmpty_iff, Text.trim_eq_nil_iff, Text.allBlank, List.all_eq_true]
  have hpreprocessor : isPreprocessor (Text.trim line.toList) = false
      ↔ ¬Opens "#include" line ∧ ¬Opens "#define" line := by
    rw [← startsWith_trim, ← startsWith_trim, isPreprocessor, Bool.or_eq_false_iff]
    simp
  simp only [isNoise, Bool.or_eq_true, Bool.and_eq_true, Bool.not_eq_true', startsWith_trim,
    hblank, hpreprocessor]
  constructor
  · rintro (((((hblank | hslash) | ⟨hhash, hinclude, hdefine⟩) | hat) | hstar) | harrow)
    · exact .blank hblank
    · exact .marked (by simp) hslash
    · exact .hash hhash hinclude hdefine
    · exact .marked (by simp) hat
    · exact .marked (by simp) hstar
    · exact .marked (by simp) harrow
  · intro h
    cases h with
    | blank h => simp [h]
    | hash hhash hinclude hdefine => simp [hhash, hinclude, hdefine]
    | marked hmark h =>
      simp only [List.mem_cons, List.not_mem_nil, or_false] at hmark
      rcases hmark with rfl | rfl | rfl | rfl <;> simp [h]

/-- 一つの行を始める二つの印は、一方がもう一方の続きである。 -/
theorem Opens.comparable {mark mark' : String} (h : Opens mark line) (h' : Opens mark' line) :
    mark.toList <+: mark'.toList ∨ mark'.toList <+: mark.toList :=
  List.prefix_or_prefix_of_prefix h h'

/-- 一行で読み飛ばす行は、塊の注釈を始めない。 -/
theorem Passing.not_opens (h : Passing l) : ¬Opens "/*" l := by
  intro hopens
  cases h with
  | blank hblank =>
    have hnil : Text.trim l.toList = [] :=
      Text.trim_eq_nil_iff.mpr (List.all_eq_true.mp hblank)
    rw [Opens, hnil] at hopens
    exact absurd hopens (by decide)
  | marked hmark h =>
    simp only [List.mem_cons, List.not_mem_nil, or_false] at hmark
    rcases hmark with rfl | rfl | rfl | rfl <;> exact absurd (h.comparable hopens) (by decide)
  | hash hhash _ _ => exact absurd (hhash.comparable hopens) (by decide)

/-! ## 走査 -/

theorem significantLine_comment (line : String) (rest : List String) :
    significantLine true (line :: rest) = significantLine (!Text.occursIn "*/" line) rest := by
  rw [significantLine, if_pos rfl, closesComment_trim]

/-- 塊の注釈を始める行は、塊の注釈の中の行と同じに読む。 -/
theorem significantLine_opens (h : Opens "/*" line) (rest : List String) :
    significantLine false (line :: rest) = significantLine true (line :: rest) := by
  rw [significantLine, significantLine_comment, if_neg (by decide), if_pos (startsWith_trim.mpr h),
    closesComment_trim]

theorem significantLine_passing (h : Passing line) (rest : List String) :
    significantLine false (line :: rest) = significantLine false rest := by
  have hopens : ¬Text.startsWith "/*" (Text.trim line.toList) = true :=
    startsWith_trim.not.mpr h.not_opens
  rw [significantLine, if_neg (by decide), if_neg hopens, if_pos (isNoise_iff.mpr h)]

theorem significantLine_significant (h : Significant line) (rest : List String) :
    significantLine false (line :: rest) = some line := by
  rw [significantLine, if_neg (by decide), if_neg (startsWith_trim.not.mpr h.2),
    if_neg (isNoise_iff.not.mpr h.1)]

/-- 塊の注釈の中の走査は、閉じる印のある最初の行で外に出る。 -/
theorem significantLine_body (hlast : Text.occursIn "*/" last = true) (rest : List String) :
    ∀ {body : List String}, (∀ l ∈ body, Text.occursIn "*/" l = false) →
    significantLine true (body ++ last :: rest) = significantLine false rest
  | [], _ => by
    rw [List.nil_append, significantLine_comment, hlast, Bool.not_true]
  | l :: body, h => by
    rw [List.cons_append, significantLine_comment, h l List.mem_cons_self, Bool.not_false]
    exact significantLine_body hlast rest fun x hx => h x (List.mem_cons_of_mem l hx)

/-- **一まとまりを読むと、走査は初めの状態に戻る。** -/
theorem significantLine_noise (h : Noise item) (rest : List String) :
    significantLine false (item ++ rest) = significantLine false rest := by
  cases h with
  | line h => exact significantLine_passing h rest
  | @comment body last hfirst hbody hlast =>
    rw [List.append_assoc, List.singleton_append]
    have hinside : significantLine false (body ++ last :: rest)
        = significantLine true (body ++ last :: rest) := by
      cases body with
      | nil => exact significantLine_opens (hfirst last rfl) rest
      | cons first body => exact significantLine_opens (hfirst first rfl) _
    rw [hinside, significantLine_body hlast rest hbody]

/-- まとまりをいくつ並べても、走査は初めの状態に戻る。 -/
theorem significantLine_flatten (rest : List String) :
    ∀ {items : List (List String)}, (∀ item ∈ items, Noise item) →
    significantLine false (items.flatten ++ rest) = significantLine false rest
  | [], _ => rfl
  | item :: items, h => by
    rw [List.flatten_cons, List.append_assoc, significantLine_noise (h item List.mem_cons_self)]
    exact significantLine_flatten rest fun x hx => h x (List.mem_cons_of_mem item hx)

/-- 塊の注釈の中から意味のある行を見つけたなら、その前に閉じる印のある行がある。 -/
theorem exists_last : ∀ {ls : List String}, significantLine true ls = some line →
    ∃ body last rest, ls = body ++ last :: rest ∧ (∀ l ∈ body, Text.occursIn "*/" l = false)
      ∧ Text.occursIn "*/" last = true ∧ significantLine false rest = some line
  | [], h => by
    rw [significantLine] at h
    cases h
  | l :: ls, h => by
    rw [significantLine_comment] at h
    cases hl : Text.occursIn "*/" l with
    | true =>
      rw [hl, Bool.not_true] at h
      exact ⟨[], l, ls, rfl, nofun, hl, h⟩
    | false =>
      rw [hl, Bool.not_false] at h
      obtain ⟨body, last, rest, rfl, hbody, hlast, hrest⟩ := exists_last h
      exact ⟨l :: body, last, rest, rfl, List.forall_mem_cons.mpr ⟨hl, hbody⟩, hlast, hrest⟩

/-- 走査が見つけた行の前には、まとまりだけが並ぶ。 -/
theorem heads_of_significantLine {ls : List String} (h : significantLine false ls = some line) :
    Heads line ls := by
  cases ls with
  | nil =>
    rw [significantLine] at h
    cases h
  | cons l ls =>
    by_cases hopens : Opens "/*" l
    · rw [significantLine_opens hopens] at h
      obtain ⟨body, last, rest, hsplit, hbody, hlast, hrest⟩ := exists_last h
      have hshorter : rest.length < (l :: ls).length := by
        rw [hsplit, List.length_append, List.length_cons]
        omega
      obtain ⟨items, rest', hitems, rfl, hline⟩ := heads_of_significantLine hrest
      have hfirst : (body ++ [last]).head? = some l := by
        have hhead := congrArg List.head? hsplit
        cases body <;> exact hhead.symm
      have hcomment : Noise (body ++ [last]) :=
        .comment (fun first h => by rw [hfirst] at h; cases h; exact hopens) hbody hlast
      refine ⟨(body ++ [last]) :: items, rest', List.forall_mem_cons.mpr ⟨hcomment, hitems⟩, ?_,
        hline⟩
      rw [hsplit, List.flatten_cons, List.append_assoc, List.append_assoc, List.singleton_append]
    · by_cases hpassing : Passing l
      · rw [significantLine_passing hpassing] at h
        obtain ⟨items, rest, hitems, rfl, hline⟩ := heads_of_significantLine h
        exact ⟨[l] :: items, rest, List.forall_mem_cons.mpr ⟨.line hpassing, hitems⟩, rfl, hline⟩
      · have hsignificant : Significant l := ⟨hpassing, hopens⟩
        rw [significantLine_significant hsignificant] at h
        cases h
        exact ⟨[], ls, nofun, rfl, hsignificant⟩
termination_by ls.length

/-- **走査が見つけるのは、まとまりの並びに続く、最初の意味のある行である。** -/
theorem significantLine_eq_some_iff : significantLine false ls = some line ↔ Heads line ls := by
  constructor
  · exact heads_of_significantLine
  · rintro ⟨items, rest, hitems, rfl, hline⟩
    rw [significantLine_flatten _ hitems, significantLine_significant hline]

/-! ## 前に並べること -/

theorem opens_dropReturn {mark : String} : Opens mark (Text.dropReturn l) ↔ Opens mark l := by
  rw [Opens, Opens, Text.trim_dropReturn]

theorem passing_dropReturn : Passing (Text.dropReturn l) ↔ Passing l := by
  rw [← isNoise_iff, ← isNoise_iff, Text.trim_dropReturn]

theorem occursIn_dropReturn (l : String) :
    Text.occursIn "*/" (Text.dropReturn l) = Text.occursIn "*/" l := by
  rw [← closesComment_trim, ← closesComment_trim, Text.trim_dropReturn]

/-- 行の末尾の復帰は、まとまりをまとまりでなくさない。 -/
theorem Noise.dropReturn (h : Noise item) : Noise (item.map Text.dropReturn) := by
  cases h with
  | line h => exact .line (passing_dropReturn.mpr h)
  | @comment body last hfirst hbody hlast =>
    rw [List.map_append]
    refine .comment (fun first h => ?_) (fun l hl => ?_) ?_
    · rw [← List.map_singleton, ← List.map_append, List.head?_map] at h
      obtain ⟨first', hfirst', rfl⟩ := Option.map_eq_some_iff.mp h
      exact opens_dropReturn.mpr (hfirst first' hfirst')
    · obtain ⟨inner, hinner, rfl⟩ := List.mem_map.mp hl
      rw [occursIn_dropReturn, hbody inner hinner]
    · rw [occursIn_dropReturn, hlast]

/-- **前に並べたまとまりは、最初の意味のある行を変えない。** -/
theorem firstSignificantLine_noise (hitems : ∀ item ∈ items, Noise item)
    (hlines : ∀ l ∈ items.flatten, '\n' ∉ l.toList) (text : String) :
    firstSignificantLine (Text.terminated items.flatten ++ text) = firstSignificantLine text := by
  unfold firstSignificantLine
  rw [Text.lines_terminated_append text hlines, List.map_flatten]
  refine significantLine_flatten _ fun item hitem => ?_
  obtain ⟨item, hmem, rfl⟩ := List.mem_map.mp hitem
  exact (hitems item hmem).dropReturn

/-- JSX を見ないか、どこにもなければ、種類は最初の意味のある行で決まる。 -/
theorem classify_of_plain {text : String} {language : Language} (hmarkup : language.isMarkup = false)
    (hjsx : (language != .python && hasJsx text) = false) :
    classify text language = ofDeclaration ((firstSignificantLine text).getD "") := by
  unfold classify
  rw [hmarkup, hjsx]
  rfl

/--
**前に空行や注釈や修飾を並べても、推し量る種類は変わらない。**

改行で終わる行からなるまとまりをいくつ前に並べても、最初の意味のある行は変わらない。だから、推し量る種類は、
Python ではいつも変わらず、マークアップでないどの言語でも、並べる前にも後にも JSX の形がなければ変わらない。
最初の意味のある行は、まとまりの並びのすぐ後にある、読み飛ばさない行である。
-/
theorem classify_noise (hitems : ∀ item ∈ items, Noise item)
    (hlines : ∀ l ∈ items.flatten, '\n' ∉ l.toList) (text : String) :
    let noisy := Text.terminated items.flatten ++ text
    firstSignificantLine noisy = firstSignificantLine text
    ∧ classify noisy .python = classify text .python
    ∧ (∀ language : Language, language.isMarkup = false → hasJsx noisy = false →
      hasJsx text = false → classify noisy language = classify text language)
    ∧ ∀ line, firstSignificantLine text = some line ↔ Heads line (Text.lines text) := by
  intro noisy
  have hline : firstSignificantLine noisy = firstSignificantLine text :=
    firstSignificantLine_noise hitems hlines text
  refine ⟨hline, ?_, fun language hmarkup hnoisy htext => ?_,
    fun line => significantLine_eq_some_iff⟩
  · rw [classify_of_plain rfl rfl, classify_of_plain rfl rfl, hline]
  · rw [classify_of_plain hmarkup (by rw [hnoisy, Bool.and_false]),
      classify_of_plain hmarkup (by rw [htext, Bool.and_false]), hline]

/-- 前処理の行に見える行のある塊の注釈と、空白だけの行と、修飾。 -/
def remarks : List (List String) := [["/*", "#define", "*/"], ["\r"], ["@"]]

/-- 塊の注釈の中の行は、前処理の行に見えても読み飛ばす。 -/
theorem classify_noise_remarks :
    (∀ item ∈ remarks, Noise item) ∧ (∀ l ∈ remarks.flatten, '\n' ∉ l.toList)
    ∧ hasJsx (Text.terminated remarks.flatten ++ "enum A") = false ∧ hasJsx "enum A" = false
    ∧ firstSignificantLine (Text.terminated remarks.flatten ++ "enum A") = some "enum A"
    ∧ classify (Text.terminated remarks.flatten ++ "enum A") .rust = .type := by
  have hitems : ∀ item ∈ remarks, Noise item := by
    refine List.forall_mem_cons.mpr ⟨?_, List.forall_mem_cons.mpr ⟨?_, List.forall_mem_cons.mpr
      ⟨?_, nofun⟩⟩⟩
    · have hopens : Opens "/*" "/*" := startsWith_trim.mp (by decide)
      exact @Noise.comment ["/*", "#define"] "*/" (by simpa using hopens) (by decide) (by decide)
    · exact .line (.blank (by decide))
    · exact .line (.marked (show "@" ∈ _ by simp) (startsWith_trim.mp (by decide)))
  have hlines : ∀ l ∈ remarks.flatten, '\n' ∉ l.toList := by decide
  have hnoisy : hasJsx (Text.terminated remarks.flatten ++ "enum A") = false := by decide +kernel
  have htext : hasJsx "enum A" = false := by decide +kernel
  obtain ⟨hline, -, hclassify, -⟩ := classify_noise hitems hlines "enum A"
  refine ⟨hitems, hlines, hnoisy, htext, ?_, ?_⟩
  · rw [hline]
    decide +kernel
  · rw [hclassify .rust rfl hnoisy htext]
    decide +kernel

end CodeSearch.Classification
