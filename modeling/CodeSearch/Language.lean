import CodeSearch.Path
import CodeSearch.Text.LetterCase

/-!
# 言語

ファイルの拡張子や名前から言語を決める。拡張子と名前の比較は ASCII の大小だけを無視する。
知らない拡張子や名前は `unknown` になる。
-/

namespace CodeSearch

/-- プログラミング言語またはマークアップ言語。 -/
inductive Language where
  | rust | python | typescript | tsx | javascript | go | java | c | cpp | ruby | php | kotlin
  | swift | html | vue | svelte | unknown
  deriving DecidableEq, Repr, Inhabited

namespace Language

/-- すべての言語。 -/
def all : List Language :=
  [.rust, .python, .typescript, .tsx, .javascript, .go, .java, .c, .cpp, .ruby, .php, .kotlin,
    .swift, .html, .vue, .svelte, .unknown]

/-- 小文字の名前。 -/
def name : Language → String
  | .rust => "rust"
  | .python => "python"
  | .typescript => "typescript"
  | .tsx => "tsx"
  | .javascript => "javascript"
  | .go => "go"
  | .java => "java"
  | .c => "c"
  | .cpp => "cpp"
  | .ruby => "ruby"
  | .php => "php"
  | .kotlin => "kotlin"
  | .swift => "swift"
  | .html => "html"
  | .vue => "vue"
  | .svelte => "svelte"
  | .unknown => "unknown"

/-- 拡張子と言語の対応。 -/
def extensions : List (String × Language) :=
  [("rs", .rust), ("py", .python), ("pyi", .python), ("ts", .typescript), ("mts", .typescript),
    ("cts", .typescript), ("tsx", .tsx), ("js", .javascript), ("jsx", .javascript),
    ("mjs", .javascript), ("cjs", .javascript), ("go", .go), ("java", .java), ("c", .c), ("h", .c),
    ("cpp", .cpp), ("cc", .cpp), ("cxx", .cpp), ("hpp", .cpp), ("hxx", .cpp), ("hh", .cpp),
    ("rb", .ruby), ("php", .php), ("kt", .kotlin), ("kts", .kotlin), ("swift", .swift),
    ("html", .html), ("htm", .html), ("vue", .vue), ("svelte", .svelte)]

/-- 正式な名前のほかに受け付ける名前。 -/
def aliases : List (String × Language) :=
  [("ts", .typescript), ("js", .javascript), ("jsx", .javascript), ("c++", .cpp)]

/-- 拡張子から決める。前に付いた点は無視する。 -/
def ofExtension (ext : String) : Language :=
  let key := Text.asciiLower (String.ofList (ext.toList.dropWhile (· == '.')))
  (extensions.lookup key).getD .unknown

/-- パスの拡張子から決める。 -/
def ofPath (path : String) : Language :=
  ((Path.extension? path).map ofExtension).getD .unknown

/-- 名前から決める。 -/
def ofName (text : String) : Language :=
  let key := Text.asciiLower text
  match all.find? (fun l => l.name == key) with
  | some l => l
  | none => (aliases.lookup key).getD .unknown

/-- `<script>` に別の言語を埋め込む言語か。 -/
def isMarkup : Language → Bool
  | .html | .vue | .svelte => true
  | _ => false

/-- JSX を書ける言語か。 -/
def allowsJsx : Language → Bool
  | .tsx | .javascript => true
  | _ => false

/-- 構文規則を備えている言語か。マークアップはどれも HTML の規則を使う。 -/
def hasGrammar (l : Language) : Bool := l != .unknown

end Language

end CodeSearch
