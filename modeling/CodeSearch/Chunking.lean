import CodeSearch.Breakpoint.Walk
import CodeSearch.Classification
import CodeSearch.Grammar.Registry
import CodeSearch.Span

/-!
# ファイルを断片に切る

切り方は二つある。

* 構文木の切れ目で切る（`Chunking.byTree`）。文法や木がなければ失敗する。
* 行頭の宣言で切る（`Chunking.byLine`）。宣言がなければ一定の行数ごとに切る。失敗しない。

`Chunking.chunk` は、文法があれば前者を選び、失敗したら後者でやり直す。
どちらも文法の保管に問いながら進む仕事（`Access`）として書き、最後まで続けて済ませたものを、
進んだ保管と一緒に返す。断片の中身は保管の状態にはよらない。
-/

namespace CodeSearch

/-- 断片の切り方。 -/
inductive ParseMethod where
  | tree | line
  deriving DecidableEq, Repr

/-- 切り方の名前。 -/
def ParseMethod.name : ParseMethod → String
  | .tree => "ast"
  | .line => "fallback"

/-- 一つのファイルを切った結果。 -/
structure ChunkOutcome where
  chunks : List Chunk
  parsed : Bool
  method : ParseMethod
  /-- 切れなかった理由。切り直したときは、最初の切り方があきらめた理由である。 -/
  error : Option String := none

/-- 切るファイル。 -/
structure SourceFile where
  path : String
  text : String
  language : Language
  trees : Trees := fun _ _ => none

/-- 切り方の設定。 -/
structure ChunkLimits where
  /-- 断片の語数の上限。0 は無制限である。 -/
  budget : Nat := 1500
  /-- 宣言がないときに切る行数。 -/
  window : Nat := 60

namespace Chunking

/-- 範囲を断片に仕上げる。 -/
def assemble (path : String) (language : Language) (ls : SourceLines) (spans : List Span)
    (budget : Nat) : List Chunk :=
  let typed := spans.map fun s : Span =>
    ({ first := s.first, last := s.last,
       kind := s.kind.getD (Classification.classify (ls.slice s.first s.last) language) } :
      TypedSpan)
  let pieces := (TypedSpan.mergeVariables ls typed).flatMap (TypedSpan.splitToBudget ls budget)
  (pieces.filter (fun s => !ls.isBlank s.first s.last)).mapIdx fun i s =>
    s.toChunk path language ls i

/-- 整えた切れ目で切る。 -/
def cut (path text : String) (language : Language) (points : List Breakpoint) (budget : Nat) :
    List Chunk :=
  let ls := SourceLines.ofText text
  assemble path language ls (Span.ofBreakpoints points ls.count) budget

/-! ## 構文木で切る -/

/-- 構文木から整えた切れ目を求める。 -/
def findBreakpoints (trees : Trees) (language : Language) (text : String) :
    Access (Except String (List Breakpoint)) := do
  match ← Access.askGrammar language with
  | none => return .error ("no grammar available for " ++ language.name)
  | some grammar =>
    if !grammar.usable then return .error ("failed to initialize " ++ language.name ++ " parser")
    else
      match trees language 0 with
      | none => return .error "parser produced no tree"
      | some tree =>
        let points := Breakpoint.normalize (← Breakpoint.extract trees language text tree.root)
        if tree.hasError && points.isEmpty then return .error "unrecoverable syntax errors"
        else return .ok points

/-- 構文木から整えた切れ目を求め、保管を進める。 -/
def breakpoints (registry : Registry) (trees : Trees) (language : Language) (text : String) :
    Except String (List Breakpoint) × Registry :=
  (findBreakpoints trees language text).run registry

/-- 構文木の切れ目で切る仕事。 -/
def treeJob (file : SourceFile) (budget : Nat) : Access ChunkOutcome :=
  if Text.allBlank file.text then pure { chunks := [], parsed := true, method := .tree }
  else do
    match ← findBreakpoints file.trees file.language file.text with
    | .error reason => return { chunks := [], parsed := false, method := .tree, error := reason }
    | .ok points =>
      return { chunks := cut file.path file.text file.language points budget, parsed := true,
               method := .tree }

/-- 構文木の切れ目で切る。 -/
def byTree (registry : Registry) (file : SourceFile) (budget : Nat) : ChunkOutcome × Registry :=
  (treeJob file budget).run registry

/-! ## 行頭の宣言で切る -/

open Pattern in
/-- 行頭に立つ宣言の形。 -/
def declarationStart : Pattern :=
  seqs [textStart, maybeTerm "export", maybeTerm "default", Classification.visibility,
    star (termOf ["public", "private", "protected", "static", "abstract", "final", "async",
      "unsafe"]),
    words ["function", "class", "interface", "def", "fn", "func", "fun", "struct", "enum", "trait",
      "impl", "module", "namespace", "type", "object", "protocol", "extension", "mod"],
    wordEdge]

open Pattern in
/-- 行頭に立つ取り込みの形。 -/
def importStart : Pattern :=
  seq textStart (anyOf
    [ seq (lit "import") wordEdge,
      seqs [term "from", some1 (fun c => !Text.isBlank c), gap, lit "import", wordEdge],
      seq (lit "use") (one Text.isBlank),
      seqs [lit "#", blanks, lit "include", wordEdge],
      seqs [lit "require", maybe (lit "_relative"), wordEdge] ])

/-- 一つの行の切れ目。 -/
def linePoint (line : Nat) (text : String) : Option Breakpoint :=
  if importStart.isMatch text then some { line, kind := some .import }
  else if declarationStart.isMatch text then some { line }
  else none

/-- 行頭の宣言の切れ目。`n` は先頭の行の番号である。 -/
def linePoints (n : Nat) : List String → List Breakpoint
  | [] => []
  | l :: rest => (linePoint n l).toList ++ linePoints (n + 1) rest

/-- 一定の行数ごとの切れ目。 -/
def windowPoints (window count : Nat) : List Breakpoint :=
  (List.range' 1 count).filterMap fun n =>
    if (n - 1) % window = 0 then some { line := n } else none

/-- 行頭の宣言の、整えた切れ目。宣言がなければ一定の行数ごとに切る。 -/
def lineBreakpoints (window : Nat) (ls : SourceLines) : List Breakpoint :=
  let found := linePoints 1 ls.lines.toList
  Breakpoint.normalize (if found.isEmpty then windowPoints (max window 1) ls.count else found)

/-- 行頭の宣言で切る。 -/
def byLine (window : Nat) (file : SourceFile) (budget : Nat) : ChunkOutcome :=
  if Text.allBlank file.text then { chunks := [], parsed := true, method := .line }
  else
    let ls := SourceLines.ofText file.text
    let spans := Span.ofBreakpoints (lineBreakpoints window ls) ls.count
    { chunks := assemble file.path file.language ls spans budget, parsed := true, method := .line }

/-! ## 切り方を選ぶ -/

/-- 先に試す切り方。`supported` は、保管がその言語を扱えるとみなしているかどうかである。 -/
def preferred (supported : Bool) : ParseMethod := if supported then .tree else .line

/-- 保管の今の状態で、先に試す切り方。 -/
def select (registry : Registry) (language : Language) : ParseMethod :=
  preferred (registry.supports language)

/-- ファイルを断片に切る仕事。構文木で切れなければ行頭の宣言で切り、理由を添える。 -/
def job (limits : ChunkLimits) (file : SourceFile) : Access ChunkOutcome := do
  match preferred (← Access.askSupports file.language) with
  | .line => return byLine limits.window file limits.budget
  | .tree =>
    let outcome ← treeJob file limits.budget
    if outcome.parsed then return outcome
    else
      return { byLine limits.window file limits.budget with error := some (outcome.error.getD "") }

/-- ファイルを断片に切り、保管を進める。 -/
def chunk (limits : ChunkLimits) (registry : Registry) (file : SourceFile) :
    ChunkOutcome × Registry :=
  (job limits file).run registry

/-- ファイルを順に切る。 -/
def chunkAll (limits : ChunkLimits) (registry : Registry) :
    List SourceFile → List ChunkOutcome × Registry
  | [] => ([], registry)
  | f :: fs =>
    let (outcome, next) := chunk limits registry f
    let (outcomes, last) := chunkAll limits next fs
    (outcome :: outcomes, last)

end Chunking

end CodeSearch
