import CodeSearch.Breakpoint
import CodeSearch.Breakpoint.Component
import CodeSearch.Grammar.Access
import CodeSearch.Grammar.NodeTable
import CodeSearch.Syntax.Tree

/-!
# 構文木から切れ目を取り出す

根の子のうち、表が認める種類のものを深さ 0 の切れ目にする。
その内側は深さ 3 まで降り、関数のような節と、何行かにわたる JSX だけを切れ目にする。
マークアップの `<script>` は、その言語の文法を求め、その言語の木を歩いて行番号をファイル全体に直す。

* 透明な種類の子は、親と同じ深さにあるとみなす。
* 不可分な種類の中へは降りない。
* 宣言のすぐ前に続く注釈は、その宣言の切れ目に含める（`leadingRow`）。

歩くだけなら文法の保管は要らないので、歩いた結果は、切れ目と、まだ歩いていないスクリプトの並び
（`Found`）とし、スクリプトの中は後で保管に問いながら歩く。
結果は見つけた順であり、整えるのは `Breakpoint.normalize` の仕事である。
-/

namespace CodeSearch

/-- 木を歩いて見つけたもの。 -/
inductive Found where
  | point (p : Breakpoint)
  /-- スクリプトの節。中はまだ歩いていない。 -/
  | script (element : Node)

/-- 見つけた切れ目。 -/
def Found.point? : Found → Option Breakpoint
  | point p => some p
  | script _ => none

/-- 一つの木を歩くときに変わらないもの。 -/
structure Scope where
  source : Source
  table : NodeTable
  language : Language
  /-- マークアップに埋め込まれたスクリプトか。 -/
  embedded : Bool := false
  /-- 行番号に足す数。 -/
  lineOffset : Nat := 0

namespace Scope

/-- 内側で切れ目を記録する、いちばん深い深さ。 -/
def maxDepth : Nat := 3

/-- これより短い JSX は、囲む断片に含める。 -/
def minJsxLines : Nat := 3

/-- 行の位置を行番号に直した切れ目。 -/
def pointAt (s : Scope) (row : Nat) (kind : ChunkType) (depth : Nat) : Breakpoint :=
  { line := row + 1 + s.lineOffset, kind := some kind, depth }

/-! ## 節の種類の判断 -/

/-- 代入される式。並びであればその要素になる。 -/
def initializers (n : Node) : List Node :=
  ["value", "right"].flatMap fun name =>
    match n.field? name with
    | none => []
    | some v => if v.kind == "expression_list" then v.children else [v]

/-- 初期値が関数か。節そのものと、その子の代入を見る。 -/
def initializedByFunction (s : Scope) (n : Node) : Bool :=
  (initializers n ++ n.children.flatMap fun c => c :: initializers c).any
    fun v => s.table.functionValues.contains v.kind

/-- 型の宣言が一つだけなら、その中身で種類を決める。 -/
def goTypeKind (n : Node) : Option ChunkType :=
  match n.children.filter (·.kind == "type_spec") with
  | [spec] =>
    match (spec.field? "type").map (·.kind) with
    | some "struct_type" => some .class
    | some "interface_type" => some .interface
    | _ => none
  | _ => none

/-- 同じ節で表される宣言のうち、列挙だけを分ける。 -/
def swiftClassKind (src : Source) (n : Node) : Option ChunkType :=
  match (n.field? "declaration_kind").map src.nodeText with
  | some "enum" => some .type
  | _ => none

/-- 言語ごとの読み分け。 -/
def refinedKind (s : Scope) (n : Node) : Option ChunkType :=
  match s.language, n.kind with
  | .go, "type_declaration" => goTypeKind n
  | .swift, "class_declaration" => swiftClassKind s.source n
  | _, _ => none

/-- 変数の宣言の、変数以外の種類。 -/
def variableKind (s : Scope) (n : Node) : Option ChunkType :=
  if s.table.bindings.contains n.kind then
    match if s.embedded then Component.ofDeclaration s.source n else none with
    | some t => some t
    | none => if s.initializedByFunction n then some .function else none
  else none

/-- 宣言として認める節の種類。 -/
def declaredKind (s : Scope) (n : Node) : Option ChunkType :=
  (s.table.declared n.kind).map fun base =>
    ((s.variableKind n).or (s.refinedKind n)).getD base

/-- 宣言を包む種類の節か。 -/
def isWrapper (s : Scope) (n : Node) : Bool := (s.table.wrapped n.kind).isSome

/-- 中に宣言のない包みの種類。 -/
def bareKind (s : Scope) (n : Node) : Option ChunkType :=
  match if s.embedded then Component.ofStatement s.source n else none with
  | some t => some t
  | none =>
    match n.field? "value" with
    | none => none
    | some v =>
      if s.table.functionValues.contains v.kind then some .function
      else if v.kind == "class" then some .class
      else none

mutual

/-- 包みが運ぶ宣言の種類。包みの中の包みも見る。 -/
def carriedKind (s : Scope) : Node → Option ChunkType
  | .mk k a b cs fs => (carriedKindAmong s cs).or (s.bareKind (.mk k a b cs fs))

/-- 並んだ節のうち、最初に種類の決まるもの。 -/
def carriedKindAmong (s : Scope) : List Node → Option ChunkType
  | [] => none
  | c :: rest =>
    ((s.declaredKind c).or (if s.isWrapper c then carriedKind s c else none)).or
      (carriedKindAmong s rest)

end

mutual

/-- 包みが運ぶ宣言の節。 -/
def carried (s : Scope) : Node → Option Node
  | .mk _ _ _ cs _ => carriedAmong s cs

/-- 並んだ節のうち、最初に見つかる宣言の節。 -/
def carriedAmong (s : Scope) : List Node → Option Node
  | [] => none
  | c :: rest =>
    (if (s.declaredKind c).isSome then some c
      else if s.isWrapper c then carried s c
      else none).or (carriedAmong s rest)

end

/-- 最上位の節が始める断片の種類。 -/
def topKind (s : Scope) (n : Node) : Option ChunkType :=
  match s.table.wrapped n.kind with
  | some fallback => (s.carriedKind n).or fallback
  | none => s.declaredKind n

/-- 内側の節が始める断片の種類。 -/
def nestedKind (s : Scope) (n : Node) : Option ChunkType :=
  match if s.embedded then Component.ofOption s.source n else none with
  | some t => some t
  | none =>
    if s.table.nestedFunctions.contains n.kind then some .function
    else if s.table.bindings.contains n.kind && s.initializedByFunction n then some .function
    else if s.table.jsx.contains n.kind && minJsxLines ≤ s.source.rowSpan n then some .jsx
    else none

/-- 中へ降りない節か。 -/
def isAtomic (s : Scope) (n : Node) : Bool := s.table.atomic.contains n.kind

/-- 後ろの宣言に付く節か。 -/
def isLeading (s : Scope) (n : Node) : Bool := s.table.leading.contains n.kind

/-! ## 行の位置 -/

/-- 前に続く注釈をさかのぼる。`before` は近い順の兄弟で、`floor` は宣言が終わった行である。 -/
def climb (s : Scope) (floor : Option Nat) (row : Nat) : List Node → Nat
  | [] => row
  | n :: before =>
    let first := s.source.firstRow n
    if !s.isLeading n then row
    else if floor.any (first ≤ ·) || s.source.lastRow n + 1 < row then row
    else climb s floor first before

/-- 宣言の断片が始まる行。`before` は近い順の兄弟である。 -/
def leadingRow (s : Scope) (n : Node) (before : List Node) : Nat :=
  let floor := (before.find? (fun b => !s.isLeading b)).map s.source.lastRow
  s.climb floor (s.source.firstRow n) before

/-! ## 歩き方 -/

/-- 内側の節の切れ目。`levels` は残りの深さ、`depth` は今の深さである。 -/
def nested (s : Scope) : (levels depth : Nat) → Node → List Breakpoint
  | 0, _, _ => []
  | levels + 1, depth, n =>
    if s.isAtomic n then []
    else
      ((s.nestedKind n).map fun t => s.pointAt (s.source.firstRow n) t depth).toList
        ++ n.children.flatMap (nested s levels (depth + 1))

/-- 内側を歩く節。包みなら運んでいる宣言である。 -/
def body (s : Scope) (n : Node) : Node :=
  if s.isWrapper n then (s.carried n).getD n else n

/-- 最上位の一つの節の切れ目。 -/
def topPoints (s : Scope) (before : List Node) (n : Node) : List Found :=
  (match s.topKind n with
    | none => []
    | some t =>
      .point (s.pointAt (s.leadingRow n before) t 0)
        :: (if n.kind == "script_element" then [.script n] else []))
  ++ (if s.isAtomic n || s.isAtomic (s.body n) then []
    else ((s.body n).children.flatMap (s.nested maxDepth 1)).map .point)

mutual

/-- 最上位の節の切れ目。透明な節は子を最上位とみなす。 -/
def topNode (s : Scope) (before : List Node) : Node → List Found
  | .mk k a b cs fs =>
    if s.table.transparent.contains k then topAll s [] cs
    else s.topPoints before (.mk k a b cs fs)

/-- 並んだ最上位の節の切れ目。`before` は済んだ兄弟を近い順に並べたものである。 -/
def topAll (s : Scope) (before : List Node) : List Node → List Found
  | [] => []
  | c :: rest => topNode s before c ++ topAll s (c :: before) rest

end

/-! ## 埋め込まれたスクリプト -/

/-- 属性 `lang` の値。 -/
def langAttribute? (src : Source) (attr : Node) : Option String :=
  if attr.kind != "attribute" then none
  else
    match attr.children with
    | name :: value :: _ =>
      if src.nodeText name == "lang" then
        some (Component.unquote (src.nodeText (value.children.head?.getD value)))
      else none
    | _ => none

/-- スクリプトの言語。指定がなければ JavaScript である。 -/
def scriptLanguage (src : Source) (element : Node) : Language :=
  let lang := (element.children.find? (·.kind == "start_tag")).bind fun tag =>
    tag.children.findSome? (langAttribute? src)
  match lang.map Language.ofName with
  | some .typescript => .typescript
  | some .tsx => .tsx
  | _ => .javascript

/-- スクリプトの中身の節。 -/
def scriptBody? (element : Node) : Option Node :=
  element.children.find? (·.kind == "raw_text")

/-- 一つのスクリプトの切れ目。行番号はファイル全体のものに直す。
スクリプトの言語の表に `<script>` はないので、その中にスクリプトは見つからない。 -/
def scriptPoints (s : Scope) (trees : Trees) (element : Node) : Access (List Breakpoint) :=
  match scriptBody? element with
  | none => pure []
  | some raw =>
    let language := scriptLanguage s.source element
    match NodeTable.ofLanguage language with
    | none => pure []
    | some table => do
      let grammar ← Access.askGrammar language
      if grammar.any (·.usable) then
        match s.source.text? raw.start raw.stop, trees language raw.start with
        | some text, some tree =>
          let sub : Scope :=
            { source := .ofString text, table, language, embedded := true,
              lineOffset := s.lineOffset + s.source.firstRow raw }
          return (topAll sub [] tree.root.children).filterMap Found.point?
        | _, _ => return []
      else return []

/-- 見つけたものの切れ目。スクリプトは、見つけた場所でその中を歩く。 -/
def gather (s : Scope) (trees : Trees) : List Found → Access (List Breakpoint)
  | [] => pure []
  | .point p :: rest => do
    let points ← gather s trees rest
    return p :: points
  | .script element :: rest => do
    let inside ← s.scriptPoints trees element
    let points ← gather s trees rest
    return inside ++ points

end Scope

namespace Breakpoint

/-- 本文全体を歩く範囲。表のない言語にはない。 -/
def scope? (language : Language) (text : String) : Option Scope :=
  (NodeTable.ofLanguage language).map fun table =>
    { source := .ofString text, table, language }

/-- 切れ目を見つけた順に取り出す。 -/
def extract (trees : Trees) (language : Language) (text : String) (root : Node) :
    Access (List Breakpoint) :=
  match scope? language text with
  | none => pure []
  | some s => s.gather trees (s.topAll [] root.children)

end Breakpoint

end CodeSearch
