import CodeSearch.Cli.Run
import CodeSearch.Json.Reader

/-!
# 命令行

作業する場所は標準入力から受け取る。一行目は、パスから本文への JSON オブジェクトである。
まず引数の命令を施し、続く行に引数の列があれば、同じ場所に順に施す。
文は標準出力に、失敗の知らせは標準エラー出力に書き、最後の命令の終わり方で終わる。

構文木も通信も持たないので、断片は行頭の宣言で切り、提供元には届かない。
-/

namespace CodeSearch.Cli

/-- 書かれたファイルを置いた場所。 -/
def workspaceOfFiles (files : Json) : Workspace :=
  match files with
  | .object members =>
    members.foldl (fun w m => (m.2.string?.map (w.writeText m.1)).getD w) {}
  | _ => {}

/-- 行に書かれた引数の列。 -/
def argumentsOfLine (line : String) : Option (List String) :=
  ((Json.parse? line).bind Json.array?).map (·.filterMap Json.string?)

/-- 鍵だけを見せる環境。 -/
def keyEnvironment (voyage openAi : Option String) : String → Option String
  | "VOYAGE_API_KEY" => voyage
  | "OPENAI_API_KEY" => openAi
  | _ => none

/-- 構文木も通信もない世界。 -/
def bareSurroundings (environment : String → Option String) : Surroundings Unit where
  environment := environment
  transport := fun _ _ => (none, ())
  loader := fun _ => none

/-- 答えを書く。 -/
def write (a : Answer) : IO Unit := do
  IO.print a.output
  unless a.notice.isEmpty do IO.eprintln a.notice

/-- 命令を順に施し、最後の終わり方を返す。 -/
def runAll (world : Surroundings Unit) :
    Workspace → List String → List (List String) → IO UInt32
  | w, args, later => do
    let (answer, w, _) := run world args w ()
    write answer
    match later with
    | [] => return answer.code.toUInt32
    | next :: later => runAll world w next later

end CodeSearch.Cli

/-- 命令行から始める。 -/
def main (args : List String) : IO UInt32 := do
  let input ← (← IO.getStdin).readToEnd
  let lines := input.splitOn "\n"
  let files := (lines.head?.bind CodeSearch.Json.parse?).getD .null
  let environment :=
    CodeSearch.Cli.keyEnvironment (← IO.getEnv "VOYAGE_API_KEY") (← IO.getEnv "OPENAI_API_KEY")
  CodeSearch.Cli.runAll (CodeSearch.Cli.bareSurroundings environment)
    (CodeSearch.Cli.workspaceOfFiles files) args
    (lines.tail.filterMap CodeSearch.Cli.argumentsOfLine)
