import CodeSearch.Proofs.Chunking.Attaching
import CodeSearch.Proofs.Chunking.Normalization
import CodeSearch.Proofs.Chunking.Visiting
import CodeSearch.Proofs.Syntax.Rows

/-!
# スクリプトの中の切れ目

マークアップの `<script>` は、中身だけを別の本文として歩く。中身は行の途中から始まることが多いが、
見つけた切れ目は、ファイル全体で数えた行に置かれる。切れ目の行は節か、その前に続く注釈の始まりの行であり、
節が中身に収まる限り、切れ目も中身の行に収まる。

* `Recorded.origin` — 切れ目の行は、節か、節に付く前の兄弟の始まりの行である
* `Entered.line_eq` — スクリプトの中の切れ目の行は、ファイル全体で数えたものである
* `collected_split` — スクリプトの中の切れ目は、そのスクリプトの切れ目のすぐ後に集まる
* `Breakpoint.normalize_erase` — 先に見つけた切れ目と同じ行のものは、除いても整えた結果が変わらない
* `embedded_exact` — 以上をマークアップのファイルについて言う
-/

namespace CodeSearch

open Registry

/-! ## 収まること -/

namespace Node

/-- 木のどの節も、長さ `length` の本文に収まること。 -/
def LiesIn (n : Node) (length : Nat) : Prop :=
  ∀ path m, n.at? path = some m → m.start ≤ m.stop ∧ m.stop ≤ length

theorem liesIn_mk {kind : String} {start stop length : Nat} {cs : List Node}
    {fields : List (String × Field)} : (Node.mk kind start stop cs fields).LiesIn length
    ↔ (start ≤ stop ∧ stop ≤ length) ∧ ∀ c ∈ cs, c.LiesIn length := by
  constructor
  · intro h
    refine ⟨h [] _ (at?_nil _), fun c hc path m hm => ?_⟩
    obtain ⟨i, hi⟩ := List.mem_iff_getElem?.mp hc
    exact h (i :: path) m ((at?_cons hi path).trans hm)
  · rintro ⟨hself, hchildren⟩ (_ | ⟨i, path⟩) m hm
    · rw [at?_nil] at hm
      cases hm
      exact hself
    · rw [at?] at hm
      obtain ⟨c, hi, hc⟩ := Option.bind_eq_some_iff.mp hm
      exact hchildren c (List.mem_of_getElem? hi) path m hc

/-- 子が順に重ならずに並び、孫がその親に収まること。 -/
structure LaidOut (n : Node) : Prop where
  inOrder : n.children.Pairwise fun a b => a.stop ≤ b.start
  within : ∀ c ∈ n.children, ∀ d ∈ c.children, c.start ≤ d.start ∧ d.stop ≤ c.stop

end Node

namespace Scope

variable {s sub : Scope} {trees : Trees} {loader : Loader} {registry : Registry}
  {root n m e raw : Node} {path : List Nat} {before : List Node} {p : Breakpoint} {tree : Tree}

/-! ## 切れ目の行を決める節 -/

/-- 切れ目の行を決める節。番地の節そのものか、最上位の節に付く前の兄弟である。 -/
inductive Origin (s : Scope) (root : Node) (path : List Nat) : Node → Prop where
  | node {n : Node} : root.at? path = some n → Origin s root path n
  | leading {before : List Node} {n b : Node} : s.TopLevel root path before n → b ∈ before →
      s.isLeading b = true → Origin s root path b

/-- さかのぼって着く行は、元の行か、通った注釈の始まりの行である。 -/
theorem climb_eq (s : Scope) (floor : Option Nat) : ∀ (before : List Node) (row : Nat),
    s.climb floor row before = row ∨ ∃ b ∈ before, s.isLeading b = true
      ∧ s.climb floor row before = s.source.firstRow b
  | [], row => Or.inl rfl
  | b :: before, row => by
    unfold climb
    by_cases hleading : s.isLeading b = true
    · simp only [hleading, Bool.not_true, Bool.false_eq_true, if_false]
      split
      · exact Or.inl rfl
      · rcases s.climb_eq floor before (s.source.firstRow b) with heq | ⟨c, hc, hlead, heq⟩
        · exact Or.inr ⟨b, List.mem_cons_self, hleading, heq⟩
        · exact Or.inr ⟨c, List.mem_cons_of_mem _ hc, hlead, heq⟩
    · simp [hleading]

/-- **切れ目の行は、節か、節に付く前の兄弟の始まりの行である。** -/
theorem Recorded.origin (h : s.Recorded root path p) :
    ∃ m, s.Origin root path m ∧ p.line = s.source.firstRow m + 1 + s.lineOffset := by
  obtain ⟨a, r, before, top, rfl, htop, hmarks⟩ := h
  cases hmarks with
  | own _ =>
    rw [List.append_nil]
    rcases s.climb_eq ((before.find? fun b => !s.isLeading b).map s.source.lastRow) before
      (s.source.firstRow top) with heq | ⟨b, hb, hlead, heq⟩
    · exact ⟨top, .node htop.at?, congrArg (· + 1 + s.lineOffset) heq⟩
    · exact ⟨b, .leading htop hb hlead, congrArg (· + 1 + s.lineOffset) heq⟩
  | @inner _ _ _ _ d _ _ _ hb _ hc hopen _ _ =>
    refine ⟨d, .node ?_, rfl⟩
    rw [Node.at?_append htop.at?, hb.inner_at? hc hopen]

/-- 最上位の節の前に並ぶ兄弟も、木の中の節である。 -/
theorem TopLevel.before_at? (h : s.TopLevel root path before n) :
    ∀ b ∈ before, ∃ q, root.at? q = some b := by
  induction h with
  | @child parent n i _ _ =>
    intro b hb
    have hmem : b ∈ parent.children := List.mem_of_mem_take (List.mem_reverse.mp hb)
    obtain ⟨j, hj⟩ := List.mem_iff_getElem?.mp hmem
    exact ⟨[j], by rw [Node.at?_cons hj, Node.at?_nil]⟩
  | through hi _ _ ih =>
    intro b hb
    obtain ⟨q, hq⟩ := ih b hb
    exact ⟨_ :: q, by rw [Node.at?_cons hi, hq]⟩

theorem Origin.at? (h : s.Origin root path m) : ∃ q, root.at? q = some m := by
  cases h with
  | node hn => exact ⟨path, hn⟩
  | leading htop hb _ => exact htop.before_at? m hb

/-! ## スクリプトの中を歩くこと -/

/-- スクリプトの中身 `raw` を歩く範囲。 -/
def scriptScope? (s : Scope) (e raw : Node) : Option Scope :=
  (NodeTable.ofLanguage (scriptLanguage s.source e)).bind fun table =>
    (s.source.text? raw.start raw.stop).map fun text =>
      { source := .ofString text, table, language := scriptLanguage s.source e, embedded := true,
        lineOffset := s.lineOffset + s.source.firstRow raw }

/-- スクリプトの中身 `raw` を、範囲 `sub` として木 `tree` に沿って歩くこと。 -/
structure Entered (s : Scope) (trees : Trees) (loader : Loader) (e raw : Node) (sub : Scope)
    (tree : Tree) : Prop where
  body : scriptBody? e = some raw
  usable : (served loader (scriptLanguage s.source e)).any (·.usable) = true
  scope : s.scriptScope? e raw = some sub
  parsed : trees (scriptLanguage s.source e) raw.start = some tree

/-- スクリプトの中の切れ目を、場合に分けて書き下したもの。 -/
theorem inside_eq (s : Scope) (trees : Trees) (loader : Loader) (e : Node) :
    s.inside trees loader e = match scriptBody? e with
      | none => []
      | some raw =>
        if (served loader (scriptLanguage s.source e)).any (·.usable) then
          match s.scriptScope? e raw, trees (scriptLanguage s.source e) raw.start with
          | some sub, some tree => (sub.topAll [] tree.root.children).filterMap Found.point?
          | _, _ => []
        else [] := by
  have hget := (agrees_ofLoader loader).get_fst (scriptLanguage s.source e)
  unfold inside scriptPoints scriptScope?
  cases scriptBody? e with
  | none => rfl
  | some raw =>
    cases htable : NodeTable.ofLanguage (scriptLanguage s.source e) with
    | none => simp [htable]; rfl
    | some table =>
      simp only [htable, Option.bind_some]
      rw [Access.run_bind]
      show ((if ((Registry.get _ _).1.any _) = true then _ else _ : Access _).run _).1 = _
      rw [hget]
      split
      · cases s.source.text? raw.start raw.stop <;>
          cases trees (scriptLanguage s.source e) raw.start <;> rfl
      · rfl

/-- 歩いたなら、集まるのはその範囲の切れ目である。 -/
theorem Entered.inside_eq (h : s.Entered trees loader e raw sub tree) :
    s.inside trees loader e = (sub.topAll [] tree.root.children).filterMap Found.point? := by
  simp [Scope.inside_eq, h.body, h.usable, h.scope, h.parsed]

/-- 歩かないスクリプトからは、何も集まらない。 -/
theorem exists_entered (hp : p ∈ s.inside trees loader e) :
    ∃ raw sub tree, s.Entered trees loader e raw sub tree := by
  rw [inside_eq] at hp
  cases hbody : scriptBody? e with
  | none => simp [hbody] at hp
  | some raw =>
    simp only [hbody] at hp
    split at hp
    · next husable =>
      split at hp
      · next sub tree hscope hparsed => exact ⟨raw, sub, tree, hbody, husable, hscope, hparsed⟩
      · simp at hp
    · simp at hp

theorem scriptScope?_eq_some (h : s.scriptScope? e raw = some sub) :
    ∃ text, s.source.text? raw.start raw.stop = some text ∧ sub.source = .ofString text
      ∧ sub.lineOffset = s.lineOffset + s.source.firstRow raw := by
  obtain ⟨table, -, hmap⟩ := Option.bind_eq_some_iff.mp h
  obtain ⟨text, htext, rfl⟩ := Option.map_eq_some_iff.mp hmap
  exact ⟨text, htext, rfl, rfl⟩

/-! ## ファイル全体で数えた行 -/

/-- **スクリプトの中の切れ目の行は、ファイル全体で数えたものであり、中身の行に収まる。** -/
theorem Entered.line_eq (h : s.Entered trees loader e raw sub tree)
    (hinside : tree.root.LiesIn (raw.stop - raw.start)) (hp : sub.Recorded tree.root path p) :
    ∃ m, sub.Origin tree.root path m
      ∧ p.line = s.source.row (raw.start + m.start) + 1 + s.lineOffset
      ∧ raw.start + m.start ≤ raw.stop := by
  obtain ⟨text, htext, hsource, hoffset⟩ := scriptScope?_eq_some h.scope
  obtain ⟨hle, -, -⟩ := Source.text?_eq_some htext
  obtain ⟨m, hm, hline⟩ := hp.origin
  obtain ⟨q, hq⟩ := hm.at?
  obtain ⟨hstart, hstop⟩ := hinside q m hq
  refine ⟨m, hm, ?_, by omega⟩
  have hrow : s.source.firstRow raw + sub.source.firstRow m
      = s.source.row (raw.start + m.start) := by
    rw [hsource]
    exact Source.row_text? htext (by omega)
  rw [hline, hoffset, ← hrow]
  omega

theorem Entered.line_mem (h : s.Entered trees loader e raw sub tree)
    (hinside : tree.root.LiesIn (raw.stop - raw.start)) (hp : p ∈ s.inside trees loader e) :
    s.source.row raw.start + 1 + s.lineOffset ≤ p.line
      ∧ p.line ≤ s.source.row raw.stop + 1 + s.lineOffset := by
  rw [h.inside_eq] at hp
  obtain ⟨path, hrecorded⟩ := (sub.enumerates_walk tree.root).exists_of_mem hp
  obtain ⟨m, -, hline, hstop⟩ := h.line_eq hinside hrecorded
  have hlow := s.source.row_mono (Nat.le_add_right raw.start m.start)
  have hhigh := s.source.row_mono hstop
  omega

/-! ## 見つける順 -/

/-- 並んだ最上位の節から集まる切れ目。 -/
def collectedAll (s : Scope) (trees : Trees) (loader : Loader) (before cs : List Node) :
    List Breakpoint :=
  (s.topAll before cs).flatMap (s.collected trees loader)

theorem topAll_append (s : Scope) : ∀ (before xs ys : List Node),
    s.topAll before (xs ++ ys) = s.topAll before xs ++ s.topAll (xs.reverse ++ before) ys
  | before, [], ys => by simp [topAll]
  | before, x :: xs, ys => by
    rw [List.cons_append, topAll, topAll, topAll_append, List.append_assoc]
    simp

/-- マークアップを歩くこと。 -/
structure IsMarkup (s : Scope) : Prop where
  table : s.table = .markup
  language : s.language.isMarkup = true

/-- マークアップのスクリプトからは、その切れ目と、まだ歩いていない中身が見つかる。 -/
theorem IsMarkup.topNode_script (h : s.IsMarkup) (hkind : e.kind = "script_element")
    (before : List Node) : s.topNode before e
      = [.point (s.pointAt (s.leadingRow e before) .script 0), .script e] := by
  have hrefined : s.refinedKind e = none := by
    have hlanguage := h.language
    unfold refinedKind
    cases hl : s.language <;> simp_all [Language.isMarkup]
  have htop : s.topKind e = some .script := by
    unfold topKind declaredKind variableKind
    rw [hrefined, h.table, hkind]
    rfl
  have hatomic : s.isAtomic e = true := by
    unfold isAtomic
    rw [h.table, hkind]
    decide +kernel
  obtain ⟨k, a, b, cs, fs⟩ := e
  have htransparent : s.table.transparent.contains k = false := by
    rw [h.table]
    rfl
  unfold topNode topPoints
  rw [if_neg (by rw [htransparent]; decide), htop, hatomic]
  simp [hkind]

/-- **スクリプトの中の切れ目は、そのスクリプトの切れ目のすぐ後に集まる。** -/
theorem IsMarkup.collected_split (h : s.IsMarkup) (trees : Trees) (loader : Loader) {i : Nat}
    {cs : List Node} (hi : cs[i]? = some e) (hkind : e.kind = "script_element") :
    s.collectedAll trees loader [] cs
      = s.collectedAll trees loader [] (cs.take i)
        ++ s.pointAt (s.leadingRow e (cs.take i).reverse) .script 0
        :: (s.inside trees loader e
          ++ s.collectedAll trees loader (e :: (cs.take i).reverse) (cs.drop (i + 1))) := by
  unfold collectedAll
  conv_lhs => rw [← take_append_cons_drop hi]
  rw [topAll_append, topAll, h.topNode_script hkind, List.append_nil]
  simp [collected]

end Scope

/-! ## 同じ行の切れ目 -/

namespace Breakpoint

variable {ps qs rs : List Breakpoint} {p q r : Breakpoint}

/-- **先に見つけた切れ目と同じ行のものは、除いても整えた結果が変わらない。** -/
theorem normalize_erase (ps qs rs : List Breakpoint) (p : Breakpoint) :
    normalize (ps ++ p :: (qs ++ rs))
      = normalize (ps ++ p :: (qs.filter (fun q => q.line != p.line) ++ rs)) := by
  refine congrArg (collapseFrom false) (byLine_eq_of_find? fun n => ?_)
  by_cases hn : p.line = n
  · simp [List.find?_append, hn]
  · have hfind : (qs.filter fun q => q.line != p.line).find? (fun q => q.line == n)
        = qs.find? fun q => q.line == n := by
      rw [List.find?_filter]
      congr 1
      funext q
      by_cases hq : q.line = n
      · simp [hq, Ne.symm hn]
      · simp [hq]
    simp [List.find?_append, hn, hfind]

/-- ある切れ目と同じ行に残るのは、それか、それより先に見つけたものである。 -/
theorem first_of_mem_normalize (h : r ∈ normalize (ps ++ p :: qs)) (hline : r.line = p.line) :
    First (ps ++ [p]) r := by
  have hfirst := (mem_normalize.mp h).1
  unfold First at hfirst ⊢
  rw [List.append_cons, List.find?_append] at hfirst
  have hsome : ((ps ++ [p]).find? fun q => q.line == r.line).isSome :=
    List.find?_isSome.mpr ⟨p, by simp, by simp [hline]⟩
  rwa [Option.or_of_isSome hsome] at hfirst

end Breakpoint

/-! ## マークアップのファイル -/

namespace Scope

variable {s : Scope} {loader : Loader} {registry : Registry} {language : Language} {text : String}

theorem isMarkup_scope (hs : Breakpoint.scope? language text = some s)
    (hmarkup : language.isMarkup = true) : s.IsMarkup ∧ s.lineOffset = 0 := by
  obtain ⟨table, htable, rfl⟩ := Option.map_eq_some_iff.mp hs
  refine ⟨⟨?_, hmarkup⟩, rfl⟩
  cases language <;> simp_all [Language.isMarkup, NodeTable.ofLanguage]

/-- 取り出した切れ目は、根の子から集まるものである。 -/
theorem extract_run (hs : Breakpoint.scope? language text = some s) (h : registry.Agrees loader)
    (trees : Trees) (root : Node) :
    ((Breakpoint.extract trees language text root).run registry).1
      = s.collectedAll trees loader [] root.children := by
  unfold Breakpoint.extract
  rw [hs]
  exact gather_run h s trees _

/-- スクリプトの中の木が、どれも中身に収まること。 -/
def Contained (s : Scope) (trees : Trees) (loader : Loader) (root : Node) : Prop :=
  ∀ e ∈ root.children, ∀ raw sub tree, s.Entered trees loader e raw sub tree →
    tree.root.LiesIn (raw.stop - raw.start)

theorem line_le_of_lt {trees : Trees} {root e e' : Node} {i j : Nat} {p q : Breakpoint}
    (hcontained : s.Contained trees loader root) (hlaid : root.LaidOut)
    (hi : root.children[i]? = some e) (hj : root.children[j]? = some e') (hij : i < j)
    (hp : p ∈ s.inside trees loader e) (hq : q ∈ s.inside trees loader e') : p.line ≤ q.line := by
  have he := List.mem_of_getElem? hi
  have he' := List.mem_of_getElem? hj
  obtain ⟨raw, sub, tree, hentered⟩ := exists_entered hp
  obtain ⟨raw', sub', tree', hentered'⟩ := exists_entered hq
  obtain ⟨-, hhigh⟩ := hentered.line_mem (hcontained e he _ _ _ hentered) hp
  obtain ⟨hlow, -⟩ := hentered'.line_mem (hcontained e' he' _ _ _ hentered') hq
  have horder : e.stop ≤ e'.start := by
    obtain ⟨hlt, rfl⟩ := List.getElem?_eq_some_iff.mp hi
    obtain ⟨hlt', rfl⟩ := List.getElem?_eq_some_iff.mp hj
    exact List.pairwise_iff_getElem.mp hlaid.inOrder i j hlt hlt' hij
  obtain ⟨-, hstop⟩ := hlaid.within e he raw (List.mem_of_find?_eq_some hentered.body)
  obtain ⟨hstart, -⟩ := hlaid.within e' he' raw' (List.mem_of_find?_eq_some hentered'.body)
  have hrow := s.source.row_mono (hstop.trans (horder.trans hstart))
  omega

/--
**スクリプトの中の切れ目は、ファイル全体で数えた行に置かれる。**

* スクリプトの中の切れ目は、中身の木を歩いて見つけるものを一度ずつ並べたものである。その行は、
  節か、節に付く前の兄弟の始まりの位置までにある、ファイル全体の改行の数で決まる。
* どの切れ目も、中身の最初の行と最後の行の間にある。
* 前のスクリプトの中の切れ目は、後のスクリプトの中の切れ目より後の行にはない。
* スクリプトの中の切れ目は、そのスクリプトの切れ目の後に見つけるので、同じ行のものは整えると残らない。
-/
theorem embedded_exact (hs : Breakpoint.scope? language text = some s)
    (hmarkup : language.isMarkup = true) (hregistry : registry.Agrees loader) (trees : Trees)
    (root : Node) (hcontained : s.Contained trees loader root) {i : Nat} {e : Node}
    (hi : root.children[i]? = some e) (hkind : e.kind = "script_element") :
    (∀ raw sub tree, s.Entered trees loader e raw sub tree →
      Enumerates (s.inside trees loader e) (sub.Recorded tree.root)
      ∧ ∀ path p, sub.Recorded tree.root path p →
        ∃ m, sub.Origin tree.root path m ∧ raw.start + m.start ≤ raw.stop
          ∧ p.line = 1 + s.source.row (raw.start + m.start))
    ∧ (∀ p ∈ s.inside trees loader e, ∃ raw sub tree, s.Entered trees loader e raw sub tree
      ∧ 1 + s.source.row raw.start ≤ p.line ∧ p.line ≤ 1 + s.source.row raw.stop)
    ∧ (root.LaidOut → ∀ j e', i < j → root.children[j]? = some e' →
        ∀ p ∈ s.inside trees loader e, ∀ q ∈ s.inside trees loader e', p.line ≤ q.line)
    ∧ ∃ before after own,
      ((Breakpoint.extract trees language text root).run registry).1
        = before ++ own :: (s.inside trees loader e ++ after)
      ∧ before = s.collectedAll trees loader [] (root.children.take i)
      ∧ own = s.pointAt (s.leadingRow e (root.children.take i).reverse) .script 0
      ∧ Breakpoint.normalize (before ++ own :: (s.inside trees loader e ++ after))
        = Breakpoint.normalize (before
          ++ own :: ((s.inside trees loader e).filter (fun q => q.line != own.line) ++ after))
      ∧ ∀ r ∈ Breakpoint.normalize (before ++ own :: (s.inside trees loader e ++ after)),
        r.line = own.line → Breakpoint.First (before ++ [own]) r := by
  obtain ⟨hscope, hoffset⟩ := isMarkup_scope hs hmarkup
  have he := List.mem_of_getElem? hi
  refine ⟨fun raw sub tree hentered => ⟨?_, fun path p hp => ?_⟩, fun p hp => ?_, ?_, ?_⟩
  · rw [hentered.inside_eq]
    exact sub.enumerates_walk tree.root
  · obtain ⟨m, hm, hline, hstop⟩ := hentered.line_eq (hcontained e he _ _ _ hentered) hp
    exact ⟨m, hm, hstop, by omega⟩
  · obtain ⟨raw, sub, tree, hentered⟩ := exists_entered hp
    obtain ⟨hlow, hhigh⟩ := hentered.line_mem (hcontained e he _ _ _ hentered) hp
    exact ⟨raw, sub, tree, hentered, by omega, by omega⟩
  · intro hlaid j e' hij hj p hp q hq
    exact line_le_of_lt hcontained hlaid hi hj hij hp hq
  · have hsplit := (extract_run hs hregistry trees root).trans
      (hscope.collected_split trees loader hi hkind)
    exact ⟨_, _, _, hsplit, rfl, rfl, Breakpoint.normalize_erase _ _ _ _,
      fun r => Breakpoint.first_of_mem_normalize⟩

/-- 行の途中から始まるスクリプトが二つある本文。 -/
def pageText : String :=
  "<script>function f() {}\nfunction g() {}</script>\n<script>function h() {}</script>\n"

/-- 本文を歩く範囲。 -/
def page : Scope := { source := .ofString pageText, table := .markup, language := .vue }

/-- 一つめのスクリプト。 -/
def firstScript : Node := .mk "script_element" 0 48 [.mk "raw_text" 8 39 [] []] []

/-- 二つめのスクリプト。 -/
def secondScript : Node := .mk "script_element" 49 81 [.mk "raw_text" 57 72 [] []] []

/-- 本文の構文木。 -/
def pageTree : Node := .mk "document" 0 82 [firstScript, secondScript] []

/-- スクリプトの中身の構文木。 -/
def pageTrees : Trees := fun _ start =>
  match start with
  | 8 => some { root := .mk "program" 0 31 [.mk "function_declaration" 0 15 [] [],
      .mk "function_declaration" 16 31 [] []] [] }
  | 57 => some { root := .mk "program" 0 15 [.mk "function_declaration" 0 15 [] []] [] }
  | _ => none

theorem contained_page : page.Contained pageTrees .builtin pageTree := by
  intro e he raw sub tree hentered
  have hbody := hentered.body
  have hparsed := hentered.parsed
  rcases List.mem_pair.mp he with rfl | rfl
  · cases hbody
    cases hparsed
    simp [Node.liesIn_mk, Node.start, Node.stop]
  · cases hbody
    cases hparsed
    simp [Node.liesIn_mk, Node.start, Node.stop]

/-- 一つめのスクリプトの関数は 1 行目と 2 行目に、二つめの関数は 3 行目にある。1 行目に残るのは、
スクリプトの切れ目だけである。 -/
theorem embedded_exact_page :
    page.inside pageTrees .builtin firstScript
      = [⟨1, some .function, 0⟩, ⟨2, some .function, 0⟩]
    ∧ page.inside pageTrees .builtin secondScript = [⟨3, some .function, 0⟩]
    ∧ (∀ p ∈ page.inside pageTrees .builtin firstScript,
        ∀ q ∈ page.inside pageTrees .builtin secondScript, p.line ≤ q.line)
    ∧ ∀ r ∈ Breakpoint.normalize ((Breakpoint.extract pageTrees .vue pageText pageTree).run
        (.ofLoader .builtin)).1, r.line = 1 → r = ⟨1, some .script, 0⟩ := by
  have hlaid : pageTree.LaidOut := ⟨by decide, by decide⟩
  have hscope : Breakpoint.scope? .vue pageText = some page := rfl
  have hfirst : pageTree.children[0]? = some firstScript := rfl
  obtain ⟨-, -, horder, before, after, own, hextract, hbefore, hown, -, hkept⟩ :=
    embedded_exact hscope rfl (agrees_ofLoader .builtin) pageTrees pageTree contained_page hfirst
      rfl
  have hownLine : own = ⟨1, some .script, 0⟩ := hown.trans (by decide +kernel)
  refine ⟨by decide +kernel, by decide +kernel, horder hlaid 1 secondScript (by decide) rfl,
    fun r hr hline => ?_⟩
  rw [hextract] at hr
  -- スクリプトの切れ目より前には何も見つからない
  have hr' := hkept r hr (by rw [hline, hownLine])
  rw [hbefore, hownLine] at hr'
  exact List.mem_singleton.mp hr'.mem

end Scope

end CodeSearch
