import CodeSearch.ChunkType
import CodeSearch.Language
import CodeSearch.Pattern
import CodeSearch.Text.Line

/-!
# 中身から種類を推し量る

構文木から種類が分からない断片の種類を、本文の形だけから決める。

宣言の形は、空行・注釈・修飾を飛ばした最初の行（`firstSignificantLine`）で見る。
JSX と、マークアップの部品の形は、本文のどこにあってもよい。
調べる順は JSX、関数、メソッド、クラス、インターフェース、型、公開、取り込み、変数であり、
どれでもなければただの塊とする。
-/

namespace CodeSearch.Classification

open Pattern

/-! ## 形の部品 -/

/-- 本文の先頭の空白。 -/
def indent : Pattern := seq textStart blanks

/-- 先頭の空白に続く並び。 -/
def head (ps : List Pattern) : Pattern := seqs (indent :: ps)

/-- 公開範囲の指定。`pub` と、その範囲。 -/
def visibility : Pattern := maybe (seqs [lit "pub", maybe parens, gap])

/-- 修飾語の、零回以上の並び。 -/
def modifiers (ws : List String) : Pattern := star (termOf ws)

/-- `=` の前の型の注記。 -/
def annotation : Pattern := maybe (seq (lit ":") (some1 (· != '=')))

/-- 変数を宣言する語。 -/
def binders : Pattern := termOf ["const", "let", "var"]

/-! ## 種類ごとの形 -/

/-- JSX の形。 -/
def jsx : List Pattern :=
  let tagRest := many fun c => c.isAlphanum || c == '.'
  [ seqs [lit "return", blanks, lit "(", blanks, lit "<", one fun c => isLetter c || c == '>'],
    seqs [lit "=>", blanks, maybe (lit "("), blanks, lit "<", one Char.isUpper,
      tagRest, one fun c => Text.isBlank c || c == '/' || c == '>'],
    seqs [lit "</", one isLetter, tagRest, lit ">"],
    seqs [lit "<>", blanks, textEnd] ]

/-- 関数の形。 -/
def function : List Pattern :=
  [ head [maybeTerm "export", maybeTerm "default", maybeTerm "async", lit "function", wordEdge],
    head [visibility, maybeTerm "const", maybeTerm "async", maybeTerm "unsafe",
      maybe (seqs [term "extern", some1 (fun c => !Text.isBlank c), gap]), term "fn", word],
    head [maybeTerm "async", term "def", word],
    head [term "func"],
    head [maybeTerm "export", binders, word, blanks, annotation, lit "=", blanks,
      maybeTerm "async", alt parens word, blanks, annotation, lit "=>"],
    head [modifiers ["public", "private", "protected", "internal", "static", "final", "abstract",
      "override", "suspend", "open"], term "fun", word],
    head [modifiers ["public", "private", "protected", "static", "final", "abstract"],
      term "function", word, blanks, lit "("],
    head [term "def", maybe (lit "self."), word] ]

/-- メソッドの形。 -/
def method : List Pattern :=
  [ head [plus (termOf ["public", "private", "protected", "static", "final", "abstract",
        "synchronized", "override"]),
      some1 (fun c => Text.isWordChar c || isIn "<>[]," c || Text.isBlank c), gap, word, blanks,
      lit "(", many (· != ';'), textEnd],
    head [term "func", parens, blanks, word] ]

/-- クラスの形。 -/
def classLike : List Pattern :=
  [ head [maybeTerm "export", maybeTerm "default", maybeTerm "abstract", term "class", word],
    head [modifiers ["public", "private", "protected", "final", "abstract", "static", "sealed",
      "data", "open"], term "class", word],
    head [visibility, termOf ["struct", "union"], word],
    head [lit "impl", wordEdge],
    head [maybeTerm "typedef", term "struct", many Text.isWordChar, blanks, one (· == '\x7b')] ]

/-- インターフェースの形。 -/
def interface : List Pattern :=
  [ head [maybeTerm "export", maybeTerm "declare", term "interface", word],
    head [visibility, maybeTerm "unsafe", term "trait", word],
    head [maybe (termOf ["public", "private", "protected"]), maybe (lit "@"), term "interface",
      word],
    head [term "protocol", word] ]

/-- 型の形。 -/
def typeLike : List Pattern :=
  [ head [maybeTerm "export", maybeTerm "declare", maybeTerm "const", termOf ["type", "enum"], word],
    head [visibility, termOf ["enum", "type"], word],
    head [maybe (termOf ["public", "private", "protected"]), term "enum", word],
    head [lit "typedef", wordEdge] ]

/-- 公開の形。 -/
def exported : List Pattern :=
  [ head [lit "export", wordEdge],
    head [lit "module.exports", wordEdge],
    head [lit "exports.", word, blanks, lit "="] ]

/-- 取り込みの形。 -/
def imported : List Pattern :=
  let dotted := some1 fun c => Text.isWordChar c || c == '.'
  [ head [lit "import", wordEdge],
    head [term "from", dotted, gap, lit "import", wordEdge],
    head [maybeTerm "pub", term "use", one fun c => Text.isWordChar c || c == ':' || c == '\x7b'],
    head [lit "#", blanks, lit "include", wordEdge],
    head [binders, many (· != '\n'), lit "=", blanks, lit "require("],
    head [lit "require", maybe (lit "_relative"), blanks,
      one fun c => c == '(' || c == '\'' || c == '"'],
    head [term "package", dotted],
    head [alt (seqs [term "extern", lit "crate"]) (lit "using"), gap] ]

/-- 変数の形。 -/
def variableLike : List Pattern :=
  [ head [maybeTerm "export", binders, word],
    head [visibility, termOf ["static", "const"], maybeTerm "mut",
      one fun c => c.isUpper || c == '_', many (fun c => c.isUpper || c.isDigit || c == '_'),
      blanks, lit ":"],
    head [termOf ["val", "var"], word],
    head [lit "$", word, blanks, lit "="],
    head [one isNameStart, many (fun c => Text.isWordChar c || c == '.'), blanks,
      maybe (seqs [lit ":", blanks, some1 (· != '=')]), lit "=",
      one fun c => c != '=' && c != '>'],
    head [lit "#", blanks, term "define", word] ]

/-- マークアップの部品の形。先にあるものほど優先する。 -/
def component : List (ChunkType × Pattern) :=
  let assigned := fun f => seqs [termOf ["const", "let"], word, blanks, lit "=", blanks, f]
  let hook := seqs [lit "on", maybe (lit "Before"),
    words ["Mount", "Mounted", "Update", "Updated", "Unmount", "Unmounted"], lit "("]
  let option := seqs [words ["beforeCreate", "created", "beforeMount", "mounted", "beforeUpdate",
    "updated", "beforeUnmount", "unmounted"], blanks, lit "("]
  [ (.template, head [lit "<template", wordEdge]),
    (.script, head [lit "<script", wordEdge]),
    (.css, head [lit "<style", wordEdge]),
    (.component, seqs [term "export", term "default",
      alt (one (· == '\x7b')) (lit "defineComponent(")]),
    (.computed, head [alt (seqs [lit "computed", blanks, lit ":"]) (assigned (lit "computed("))]),
    (.watch, head [alt (seqs [lit "watch", blanks, lit ":"])
      (seqs [lit "watch", maybe (lit "Effect"), lit "("])]),
    (.lifecycle, head [alt hook option]),
    (.data, head [alt (seqs [lit "data", blanks, lit "()"])
      (assigned (seq (words ["ref", "reactive"]) (lit "(")))]) ]

/-- 宣言の形と種類を、調べる順に並べたもの。 -/
def declarations : List (List Pattern × ChunkType) :=
  [ (function, .function), (method, .method), (classLike, .class), (interface, .interface),
    (typeLike, .type), (exported, .export), (imported, .import), (variableLike, .variable) ]

/-! ## 最初の意味のある行 -/

/-- 残す前処理の行か。 -/
def isPreprocessor (trimmed : List Char) : Bool :=
  Text.startsWith "#include" trimmed || Text.startsWith "#define" trimmed

/-- 読み飛ばす行か。空行と、一行の注釈や修飾である。 -/
def isNoise (trimmed : List Char) : Bool :=
  trimmed.isEmpty || Text.startsWith "//" trimmed
    || (Text.startsWith "#" trimmed && !isPreprocessor trimmed)
    || Text.startsWith "@" trimmed || Text.startsWith "*" trimmed
    || Text.startsWith "<!--" trimmed

/-- 塊の注釈を閉じる印があるか。 -/
def closesComment (trimmed : List Char) : Bool := Text.hasInfix "*/".toList trimmed

/-- 行の列から、最初の意味のある行を探す。`inComment` は塊の注釈の中かどうかである。 -/
def significantLine (inComment : Bool) : List String → Option String
  | [] => none
  | line :: rest =>
    let trimmed := Text.trim line.toList
    if inComment then significantLine (!closesComment trimmed) rest
    else if Text.startsWith "/*" trimmed then significantLine (!closesComment trimmed) rest
    else if isNoise trimmed then significantLine false rest
    else some line

/-- 最初の意味のある行。 -/
def firstSignificantLine (text : String) : Option String := significantLine false (Text.lines text)

/-! ## 推し量る -/

/-- 宣言の形で決まる種類。 -/
def ofDeclaration (line : String) : ChunkType :=
  match declarations.find? (fun d => d.1.any (·.isMatch line)) with
  | some d => d.2
  | none => .block

/-- マークアップの部品の形で決まる種類。 -/
def ofComponent (text : String) : Option ChunkType :=
  (component.find? (fun d => d.2.isMatch text)).map (·.1)

/-- JSX の形があるか。 -/
def hasJsx (text : String) : Bool := jsx.any (·.isMatch text)

/-- 中身から種類を推し量る。 -/
def classify (text : String) (language : Language) : ChunkType :=
  match if language.isMarkup then ofComponent text else none with
  | some t => t
  | none =>
    if language != .python && hasJsx text then .jsx
    else ofDeclaration ((firstSignificantLine text).getD "")

end CodeSearch.Classification
