import CodeSearch.Pattern

/-!
# 断片が宣言する名前

断片の本文から、宣言している名前を一つ読む。
行頭に立つ宣言の形を順に試し、最初に本文のどこかに照合した形の名前をとる。
-/

namespace CodeSearch.DeclaredName

open Pattern

/-- 英字か下線で始まる名前。 -/
def name : Pattern := capture (seq (one isNameStart) (many Text.isWordChar))

/-- 英字・下線・ドル記号で始まる名前。 -/
def dollarName : Pattern :=
  capture (seq (one fun c => isNameStart c || c == '$') (many fun c => Text.isWordChar c || c == '$'))

/-- 行頭の空白に続く並び。 -/
def line (ps : List Pattern) : Pattern := seqs (lineStart :: blanks :: ps)

/-- 宣言の形。先にあるものほど優先する。 -/
def forms : List Pattern :=
  [ line [maybeTerm "export", maybeTerm "default", maybeTerm "abstract", maybeTerm "async",
      anyOf [seq (lit "function") (maybe (lit "*")), lit "class", lit "interface", lit "type",
        lit "enum", lit "namespace", lit "module"], gap, dollarName],
    line [maybe (seqs [lit "pub", maybe parens, gap]), maybeTerm "async", maybeTerm "unsafe",
      termOf ["fn", "struct", "enum", "trait", "type", "mod", "union"], name],
    line [lit "impl", maybe (seqs [lit "<", many (· != '>'), lit ">"]), gap,
      maybe (seqs [some1 (fun c => Text.isWordChar c || c == ':'), gap, term "for"]), name],
    line [maybeTerm "async", term "def", name],
    line [term "func", maybe (seq parens blanks), name],
    line [star (seq (some1 fun c => Text.isWordChar c || isIn "<>[]" c) gap),
      termOf ["fun", "class", "object", "interface", "struct", "protocol", "extension"], name],
    line [maybeTerm "export", termOf ["const", "let", "var", "val"], dollarName],
    line [name, blanks, maybe parens, blanks, one (· == '\x7b')] ]

/-- 本文が宣言する名前。 -/
def extract (text : String) : Option String := forms.findSome? (·.firstCapture text)

end CodeSearch.DeclaredName
