import CodeSearch.Cli.OutputFormat
import CodeSearch.Json

/-!
# 引数

引数の列を、命令と選択に直す。選択は命令の前にも後にも書ける（全体の選択）か、
命令の後にだけ書ける（命令の選択）。前後の両方に書かれた全体の選択は、後のものをとる。

* `--名前 値` と `--名前=値` は同じである。値は `-` では始まらない。ただし `-` だけは値になる。
* 同じ選択は、命令の前と後のそれぞれに一度しか書けない。
* `--` より後ろは、どれも選択ではない。
-/

namespace CodeSearch

/-- 命令。 -/
inductive Command where
  | init
  | index (path : String) (full : Bool)
  | search (query path : String) (limit : Option Nat) (minSimilarity : Option Float)
      (noHybrid noRerank : Bool)
  | stats (path : String)
  | clear (path : String)
  | doctor (path : String)

/-- 読んだ引数。 -/
structure Invocation where
  command : Option Command := none
  config : Option String := none
  format : OutputFormat := .text
  verbose : Bool := false

/-- 命令を始めずに終わるわけ。 -/
inductive EarlyExit where
  /-- 引数の誤り。 -/
  | usage (message : String)
  | help
  | version
  deriving DecidableEq, Repr

namespace Arguments

/-- 選択。 -/
inductive Choice where
  | config | format | verbose | path | full | limit | minSimilarity | noHybrid | noRerank
  | help | version
  deriving DecidableEq, Repr

namespace Choice

/-- 長い名前。 -/
def name : Choice → String
  | .config => "config"
  | .format => "format"
  | .verbose => "verbose"
  | .path => "path"
  | .full => "full"
  | .limit => "limit"
  | .minSimilarity => "min-similarity"
  | .noHybrid => "no-hybrid"
  | .noRerank => "no-rerank"
  | .help => "help"
  | .version => "version"

/-- 一文字の名前。 -/
def letter? : Choice → Option Char
  | .verbose => some 'v'
  | .help => some 'h'
  | .version => some 'V'
  | _ => none

/-- 値をとるか。 -/
def takesValue : Choice → Bool
  | .config | .format | .path | .limit | .minSimilarity => true
  | _ => false

end Choice

/-! ## 値を読む -/

/-- 符号と残り。 -/
def readSign : List Char → Bool × List Char
  | '-' :: cs => (true, cs)
  | '+' :: cs => (false, cs)
  | cs => (false, cs)

/-- 十進の数字の並びの値。 -/
def readDigits (ds : List Char) : Nat := ds.foldl (fun n c => 10 * n + (c.toNat - '0'.toNat)) 0

/-- 64 ビットの自然数。 -/
def natural? (s : String) : Option Nat :=
  let ds := match s.toList with
    | '+' :: cs => cs
    | cs => cs
  if !ds.isEmpty && ds.all Char.isDigit && readDigits ds < Nat.pow 2 64 then some (readDigits ds)
  else none

/-- 指数。なければ零である。 -/
def exponent? : List Char → Option Int
  | [] => some 0
  | e :: cs =>
    if e = 'e' || e = 'E' then
      let (negative, ds) := readSign cs
      if !ds.isEmpty && ds.all Char.isDigit then
        some (if negative then -(readDigits ds : Int) else readDigits ds)
      else none
    else none

/-- 小数。無限大と非数も名前で書ける。 -/
def real? (s : String) : Option Float :=
  let (negative, cs) := readSign s.toList
  let signed := fun (x : Float) => if negative then -x else x
  match (String.ofList cs).toLower with
  | "inf" | "infinity" => some (signed (1.0 / 0.0))
  | "nan" => some (0.0 / 0.0)
  | _ =>
    let (whole, rest) := cs.span Char.isDigit
    let (fraction, rest) := match rest with
      | '.' :: rest => rest.span Char.isDigit
      | rest => ([], rest)
    if whole.isEmpty && fraction.isEmpty then none
    else (exponent? rest).map fun e =>
      Numeral.toFloat { negative, mantissa := readDigits (whole ++ fraction),
                        exponent := e - fraction.length, integral := false }

/-- 値がその選択に合うか。合わなければ理由を返す。 -/
def checkValue (c : Choice) (v : String) : Except EarlyExit Unit :=
  let demand := fun (ok : Bool) (message : String) =>
    if ok then .ok () else .error (EarlyExit.usage message)
  match c with
  | .config | .path => demand (v ≠ "") ("a value is required for '--" ++ c.name ++ "'")
  | .limit => demand (natural? v).isSome ("invalid value '" ++ v ++ "' for '--limit'")
  | .minSimilarity => demand (real? v).isSome ("invalid value '" ++ v ++ "' for '--min-similarity'")
  | .format =>
    match OutputFormat.ofName v with
    | .ok _ => .ok ()
    | .error message => .error (.usage message)
  | _ => .ok ()

/-! ## 一つの段を読む -/

/-- 命令の前か後の、引数の一段。 -/
structure Level where
  /-- 書ける選択。 -/
  choices : List Choice
  /-- 書ける名前の数。 -/
  words : Nat := 0

/-- 読んだ選択と名前。 -/
structure Found where
  values : List (Choice × String) := []
  words : List String := []

namespace Found

/-- 選択があるか。 -/
def has (f : Found) (c : Choice) : Bool := (f.values.lookup c).isSome

/-- 選択を加える。 -/
def add (f : Found) (c : Choice) (v : String) : Except EarlyExit Found :=
  match c with
  | .help => .error .help
  | .version => .error .version
  | _ =>
    if f.has c then
      .error (.usage ("the argument '--" ++ c.name ++ "' cannot be used multiple times"))
    else (checkValue c v).map fun _ => { f with values := f.values ++ [(c, v)] }

end Found

/-- 選択として読むべき引数か。 -/
def isOption (arg : String) : Bool := arg.startsWith "-" && arg != "-"

/-- 知らない引数。 -/
def unexpected (arg : String) : EarlyExit := .usage ("unexpected argument '" ++ arg ++ "' found")

/-- 長い名前の選択。`=` の後ろに書かれた値も返す。 -/
def longChoice (level : Level) (arg : String) : Except EarlyExit (Choice × Option String) :=
  let (name, rest) := (arg.toList.drop 2).span (· != '=')
  match level.choices.find? fun c => c.name == String.ofList name with
  | none => .error (unexpected arg)
  | some c =>
    match rest with
    | [] => .ok (c, none)
    | _ :: v =>
      if c.takesValue then .ok (c, some (String.ofList v))
      else .error (.usage ("unexpected value for '--" ++ c.name ++ "' found"))

/-- 一文字の名前の選択を順に加える。 -/
def addLetters (level : Level) (f : Found) : List Char → Except EarlyExit Found
  | [] => .ok f
  | l :: ls =>
    match level.choices.find? fun c => c.letter? == some l with
    | none => .error (unexpected (String.ofList ['-', l]))
    | some c => (f.add c "").bind fun f => addLetters level f ls

/-- 選択を読む。値を次の引数からとるなら、その選択を返す。 -/
def addOption (level : Level) (f : Found) (arg : String) :
    Except EarlyExit (Found × Option Choice) :=
  if arg.startsWith "--" then
    (longChoice level arg).bind fun
      | (c, some v) => (f.add c v).map fun f => (f, none)
      | (c, none) => if c.takesValue then .ok (f, some c) else (f.add c "").map fun f => (f, none)
  else (addLetters level f (arg.toList.drop 1)).map fun f => (f, none)

/-- 名前を加える。 -/
def addWord (level : Level) (f : Found) (arg : String) : Except EarlyExit Found :=
  if f.words.length < level.words then .ok { f with words := f.words ++ [arg] }
  else .error (unexpected arg)

/-- 残りをどれも名前として読む。 -/
def addWords (level : Level) (f : Found) : List String → Except EarlyExit Found
  | [] => .ok f
  | a :: rest => (addWord level f a).bind fun f => addWords level f rest

/-- 一段を読む。`awaiting` は値を待つ選択である。`stop` が真の名前に会ったら、そこで止まる。 -/
def readLevel (level : Level) (stop : String → Bool) (f : Found) (awaiting : Option Choice) :
    List String → Except EarlyExit (Found × List String)
  | [] =>
    match awaiting with
    | some c => .error (.usage ("a value is required for '--" ++ c.name ++ "'"))
    | none => .ok (f, [])
  | a :: rest =>
    match awaiting with
    | some c =>
      if isOption a then .error (.usage ("a value is required for '--" ++ c.name ++ "'"))
      else
        match f.add c a with
        | .error e => .error e
        | .ok f => readLevel level stop f none rest
    | none =>
      if a = "--" then (addWords level f rest).map fun f => (f, [])
      else if isOption a then
        match addOption level f a with
        | .error e => .error e
        | .ok (f, next) => readLevel level stop f next rest
      else if stop a then .ok (f, a :: rest)
      else
        match addWord level f a with
        | .error e => .error e
        | .ok f => readLevel level stop f none rest

/-! ## 全体を読む -/

/-- どこにでも書ける選択。 -/
def globalChoices : List Choice := [.config, .format, .verbose, .help]

/-- 命令の前の段。 -/
def rootLevel : Level := { choices := .version :: globalChoices }

/-- 命令の名前と、その後の段。 -/
def commandLevels : List (String × Level) :=
  [ ("init", { choices := globalChoices }),
    ("index", { choices := [.path, .full] ++ globalChoices }),
    ("search", { choices := [.path, .limit, .minSimilarity, .noHybrid, .noRerank] ++ globalChoices,
                 words := 1 }),
    ("stats", { choices := .path :: globalChoices }),
    ("clear", { choices := .path :: globalChoices }),
    ("doctor", { choices := .path :: globalChoices }) ]

/-- 命令を組み立てる。 -/
def commandOf (name : String) (f : Found) : Except EarlyExit Command :=
  let path := (f.values.lookup .path).getD "."
  match name with
  | "init" => .ok .init
  | "index" => .ok (.index path (f.has .full))
  | "search" =>
    match f.words with
    | query :: _ =>
      .ok (.search query path ((f.values.lookup .limit).bind natural?)
        ((f.values.lookup .minSimilarity).bind real?) (f.has .noHybrid) (f.has .noRerank))
    | [] => .error (.usage "the following required arguments were not provided: <QUERY>")
  | "stats" => .ok (.stats path)
  | "clear" => .ok (.clear path)
  | _ => .ok (.doctor path)

/-- 全体の選択を合わせる。後の段のものを先にとる。 -/
def invocationOf (command : Option Command) (levels : List Found) : Invocation :=
  let value := fun c => levels.reverse.findSome? fun f => f.values.lookup c
  { command
    config := value .config
    format := (((value .format).map OutputFormat.ofName).bind (·.toOption)).getD .text
    verbose := levels.any (·.has .verbose) }

/-- 命令の名前か。 -/
def isCommand (name : String) : Bool := name == "help" || (commandLevels.lookup name).isSome

/-- 使い方を見る命令。 -/
def readHelp : List String → EarlyExit
  | [] => .help
  | [name] => if isCommand name then .help else .usage ("unrecognized subcommand '" ++ name ++ "'")
  | _ :: extra :: _ => unexpected extra

/-- 引数を読む。 -/
def read (args : List String) : Except EarlyExit Invocation := do
  let (root, rest) ← readLevel rootLevel isCommand {} none args
  match rest with
  | [] => return invocationOf none [root]
  | name :: rest =>
    match commandLevels.lookup name with
    | none => throw (readHelp rest)
    | some level =>
      let (found, _) ← readLevel level (fun _ => false) {} none rest
      return invocationOf (some (← commandOf name found)) [root, found]

end Arguments

end CodeSearch
