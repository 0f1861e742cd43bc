import CodeSearch.Text.LetterCase

/-!
# 断片の種類

断片が何を含むかの分類である。名前は保存と表示に、見出しは埋め込みの前置きに使う。
名前の読み取りは大文字と小文字を区別しない。
-/

namespace CodeSearch

/-- 断片の種類。 -/
inductive ChunkType where
  | function | method | «class» | interface | type | namespace | variable | import | export | jsx
  | component | block | template | script | css | data | computed | lifecycle | watch | unknown
  deriving DecidableEq, Repr, Inhabited

namespace ChunkType

/-- すべての種類。並びは宣言の順である。 -/
def all : List ChunkType :=
  [.function, .method, .class, .interface, .type, .namespace, .variable, .import, .export, .jsx,
    .component, .block, .template, .script, .css, .data, .computed, .lifecycle, .watch, .unknown]

/-- 小文字の名前。 -/
def name : ChunkType → String
  | .function => "function"
  | .method => "method"
  | .class => "class"
  | .interface => "interface"
  | .type => "type"
  | .namespace => "namespace"
  | .variable => "variable"
  | .import => "import"
  | .export => "export"
  | .jsx => "jsx"
  | .component => "component"
  | .block => "block"
  | .template => "template"
  | .script => "script"
  | .css => "css"
  | .data => "data"
  | .computed => "computed"
  | .lifecycle => "lifecycle"
  | .watch => "watch"
  | .unknown => "unknown"

/-- 埋め込みの前置きに書く見出し。 -/
def label : ChunkType → String
  | .type => "type definition"
  | .variable => "variable declarations"
  | .import => "imports"
  | .export => "exports"
  | .jsx => "JSX markup"
  | .block => "code block"
  | .template => "template markup"
  | .script => "script section"
  | .css => "stylesheet"
  | .data => "component data"
  | .computed => "computed properties"
  | .lifecycle => "lifecycle hook"
  | .watch => "watcher"
  | .unknown => "code"
  | t => t.name

/-- 取り込み・公開の文か。 -/
def isModuleBoundary : ChunkType → Bool
  | .import | .export => true
  | _ => false

/-- 名前から種類を読む。大文字と小文字は区別しない。 -/
def ofName? (s : String) : Option ChunkType :=
  let lower := Text.lowercase s
  all.find? (fun t => t.name == lower)

end ChunkType

end CodeSearch
