import CodeSearch.Chunk
import CodeSearch.DeclaredName
import CodeSearch.Identifier
import CodeSearch.Path

/-!
# 埋め込む文書

断片の本文の前に、言語・ファイル名・種類・名前・識別子の語を書いた短い前置きを付ける。
問い合わせと文書で目印を変えるモデルのために、目印の組 `TaskPrefixes` も持つ。
-/

namespace CodeSearch

/-- 問い合わせと文書の目印。 -/
structure TaskPrefixes where
  query : String
  document : String

namespace TaskPrefixes

/-- nomic-embed 系の目印。 -/
def nomic : TaskPrefixes := { query := "search_query: ", document := "search_document: " }

/-- 目印を付ける。 -/
def apply (p : TaskPrefixes) (text : String) (isQuery : Bool) : String :=
  (if isQuery then p.query else p.document) ++ text

end TaskPrefixes

namespace Chunk

/-- 前置きに書く語の上限。 -/
def maxKeywords : Nat := 48

/-- 語の一覧の行。語がなければ書かない。 -/
def keywordLine (text : String) : String :=
  match Identifier.terms text maxKeywords with
  | [] => ""
  | ts => "Keywords: " ++ " ".intercalate ts ++ "\n"

/-- 埋め込む文書。`segment` なら識別子の語も書く。 -/
def documentText (c : Chunk) (segment : Bool) : String :=
  "Language: " ++ c.language ++ "\nFile: " ++ (Path.fileName? c.path).getD c.path
    ++ "\nType: " ++ c.kind.label ++ "\n"
    ++ ((DeclaredName.extract c.text).map fun n => "Name: " ++ n ++ "\n").getD ""
    ++ (if segment then keywordLine c.text else "") ++ "\n" ++ c.text

end Chunk

end CodeSearch
