import CodeSearch.Toml.Scalar

/-!
# TOML を読む

文書は、見出し・鍵と値・注釈のどれかからなる行の並びである。値だけは行をまたぐことがある。

表は作られ方によって、後から何を足せるかが変わる（`Origin`）。

* 見出しで作った表は、もう一度見出しにできず、点でつないだ鍵で外から足せない。
* 見出しの途中に現れただけの表は、後で見出しにできる。
* 点でつないだ鍵が作った表は、見出しにできない。
* 値として書いた表と配列には、何も足せない。
-/

namespace CodeSearch.Toml

/-! ## 作りかけの表 -/

/-- 表の作られ方。 -/
inductive Origin where
  /-- 見出しで作った。 -/
  | header
  /-- 見出しの途中に現れた。 -/
  | implied
  /-- 点でつないだ鍵が作った。 -/
  | dotted
  deriving DecidableEq

/-- 作りかけの項目。 -/
inductive Entry where
  | value (v : Toml)
  | table (origin : Origin) (entries : List (String × Entry))
  /-- 表の並び。後のものほど前にある。 -/
  | tables (done : List (List (String × Entry)))

/-- 作りかけの表。 -/
abbrev Draft := List (String × Entry)

/-- 鍵の項目を置き換える。なければ後ろに足す。 -/
def replace (key : String) (e : Entry) : Draft → Draft
  | [] => [(key, e)]
  | (k, f) :: rest => if k = key then (k, e) :: rest else (k, f) :: replace key e rest

/-- 点でつないだ鍵に値を置く。 -/
def assign (v : Toml) : List String → Draft → Option Draft
  | [], _ => none
  | [key], d =>
    match d.lookup key with
    | some _ => none
    | none => some (replace key (.value v) d)
  | key :: path, d =>
    match d.lookup key with
    | none => (assign v path []).map fun sub => replace key (.table .dotted sub) d
    | some (.table .dotted sub) =>
      (assign v path sub).map fun sub => replace key (.table .dotted sub) d
    | some (.table .implied sub) =>
      match path with
      | [_] => none
      | _ => (assign v path sub).map fun sub => replace key (.table .implied sub) d
    | some (.tables (last :: done)) =>
      match path with
      | [_] => none
      | _ => (assign v path last).map fun sub => replace key (.tables (sub :: done)) d
    | some _ => none

/-- 見出しの途中を降りて、その先で `act` を行う。 -/
def descend (act : Draft → Option Draft) : List String → Draft → Option Draft
  | [], d => act d
  | key :: path, d =>
    match d.lookup key with
    | none => (descend act path []).map fun sub => replace key (.table .implied sub) d
    | some (.table origin sub) =>
      (descend act path sub).map fun sub => replace key (.table origin sub) d
    | some (.tables (last :: done)) =>
      (descend act path last).map fun sub => replace key (.tables (sub :: done)) d
    | some _ => none

/-- 見出しの表を開く。 -/
def openTable (key : String) (d : Draft) : Option Draft :=
  match d.lookup key with
  | none => some (replace key (.table .header []) d)
  | some (.table .implied sub) => some (replace key (.table .header sub) d)
  | some _ => none

/-- 見出しの表の並びに、新しい表を足す。 -/
def openTables (key : String) (d : Draft) : Option Draft :=
  match d.lookup key with
  | none => some (replace key (.tables [[]]) d)
  | some (.tables done) => some (replace key (.tables ([] :: done)) d)
  | some _ => none

mutual

/-- 出来上がった項目。 -/
def Entry.finish : Entry → Toml
  | .value v => v
  | .table _ entries => .table (finishAll entries)
  | .tables done => .array (finishTables done).reverse

/-- 出来上がった表。 -/
def finishAll : List (String × Entry) → List (String × Toml)
  | [] => []
  | (k, e) :: rest => (k, e.finish) :: finishAll rest

/-- 出来上がった表の並び。 -/
def finishTables : List (List (String × Entry)) → List Toml
  | [] => []
  | d :: rest => .table (finishAll d) :: finishTables rest

end

/-! ## 鍵 -/

/-- 引用符なしで鍵に書ける文字か。 -/
def isBareKey (c : Char) : Bool := c.isAlphanum || c == '_' || c == '-'

/-- 鍵の一部分。 -/
def keyPart? (cs : List Char) : Option (String × List Char) :=
  match lineString? cs with
  | some r => some r
  | none =>
    let bare := cs.takeWhile isBareKey
    if bare.isEmpty then none else some (String.ofList bare, cs.drop bare.length)

/-- 点でつないだ鍵。`fuel` は残りの文字数の上限である。 -/
def keyPath? : (fuel : Nat) → List Char → Option (List String × List Char)
  | 0, _ => none
  | fuel + 1, cs => do
    let (part, rest) ← keyPart? (skipSpaces cs)
    match skipSpaces rest with
    | '.' :: rest =>
      let (parts, rest) ← keyPath? fuel rest
      return (part :: parts, rest)
    | rest => return ([part], rest)

/-! ## 値 -/

/-- 注釈を飛ばす。書けない文字があれば読めない。 -/
def skipComment (cs : List Char) : Option (List Char) :=
  match cs with
  | '#' :: rest =>
    let rest := rest.dropWhile isPlain
    if rest.isEmpty || (newline? rest).isSome then some rest else none
  | _ => some cs

/-- 空白・注釈・改行を飛ばす。`fuel` は残りの文字数の上限である。 -/
def skipTrivia : (fuel : Nat) → List Char → Option (List Char)
  | 0, cs => some cs
  | fuel + 1, cs => do
    let rest ← skipComment (skipSpaces cs)
    match newline? rest with
    | some rest => skipTrivia fuel rest
    | none => return rest

/-- 配列の要素を読む。最後の区切りはあってもよい。 -/
def items (value : List Char → Option (Toml × List Char)) :
    (fuel : Nat) → List Char → Option (List Toml × List Char)
  | 0, _ => none
  | fuel + 1, cs => do
    let cs ← skipTrivia cs.length cs
    match cs with
    | ']' :: rest => return ([], rest)
    | _ =>
      let (v, rest) ← value cs
      let rest ← skipTrivia rest.length rest
      match rest with
      | ']' :: rest => return ([v], rest)
      | ',' :: rest =>
        let (vs, rest) ← items value fuel rest
        return (v :: vs, rest)
      | _ => none

/-- 値として書いた表の項目を読む。最後の区切りは書けない。 -/
def pairs (value : List Char → Option (Toml × List Char)) (d : Draft) :
    (fuel : Nat) → List Char → Option (Draft × List Char)
  | 0, _ => none
  | fuel + 1, cs => do
    let (path, rest) ← keyPath? cs.length cs
    let (v, rest) ← value (skipSpaces (← expect '=' rest))
    let d ← assign v path d
    match skipSpaces rest with
    | '\x7d' :: rest => return (d, rest)
    | ',' :: rest => pairs value d fuel rest
    | _ => none

/-- 値を読む。`depth` は入れ子にできる残りの深さである。 -/
def value? : (depth : Nat) → List Char → Option (Toml × List Char)
  | 0, _ => none
  | depth + 1, cs =>
    match cs with
    | [] => none
    | c :: rest =>
      if c = '"' || c = '\'' then (string? cs).map fun r => (.string r.1, r.2)
      else if c = '[' then (items (value? depth) cs.length rest).map fun r => (.array r.1, r.2)
      else if c = '\x7b' then
        match skipSpaces rest with
        | '\x7d' :: rest => some (.table [], rest)
        | inner =>
          (pairs (value? depth) [] cs.length inner).map fun r => (.table (finishAll r.1), r.2)
      else atom? cs

/-- 入れ子の深さの上限。 -/
def maxDepth : Nat := 80

/-! ## 文書 -/

/-- 今の見出しの先で値を置く。 -/
def assignAt (header : List String) (path : List String) (v : Toml) (d : Draft) : Option Draft :=
  descend (assign v path) header d

/-- 行の終わりまで飛ばす。空白と注釈のほかには何もあってはならない。 -/
def endLine (cs : List Char) : Option (List Char) := do
  let rest ← skipComment (skipSpaces cs)
  if rest.isEmpty then some [] else newline? rest

/-- 見出しを読み、表を開く。 -/
def header? (d : Draft) (cs : List Char) : Option (List String × Draft × List Char) :=
  match cs with
  | '[' :: '[' :: rest => do
    let (path, rest) ← keyPath? rest.length rest
    let rest ← expect ']' (← expect ']' rest)
    let key ← path.getLast?
    return (path, ← descend (openTables key) path.dropLast d, ← endLine rest)
  | '[' :: rest => do
    let (path, rest) ← keyPath? rest.length rest
    let rest ← expect ']' rest
    let key ← path.getLast?
    return (path, ← descend (openTable key) path.dropLast d, ← endLine rest)
  | _ => none

/-- 行の並びを読む。`header` は今の見出しで、`fuel` は残りの文字数の上限である。 -/
def document : (fuel : Nat) → (header : List String) → Draft → List Char → Option Draft
  | 0, _, _, _ => none
  | fuel + 1, header, d, cs => do
    let cs ← skipTrivia cs.length cs
    match cs with
    | [] => return d
    | '[' :: _ =>
      let (header, d, rest) ← header? d cs
      document fuel header d rest
    | _ =>
      let (path, rest) ← keyPath? cs.length cs
      let (v, rest) ← value? maxDepth (skipSpaces (← expect '=' rest))
      let d ← assignAt header path v d
      document fuel header d (← endLine rest)

/-- 先頭の印（BOM）を外す。 -/
def dropMark : List Char → List Char
  | c :: cs => if c.toNat = 0xFEFF then cs else c :: cs
  | [] => []

/-- TOML の文書を読む。 -/
def parse? (text : String) : Option (List (String × Toml)) :=
  let cs := dropMark text.toList
  (document (cs.length + 1) [] [] cs).map finishAll

end CodeSearch.Toml
