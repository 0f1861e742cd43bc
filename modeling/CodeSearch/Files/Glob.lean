import CodeSearch.Pattern

/-!
# グロブ

パスの形を書く小さな記法である。照合はパス全体に対して行い、UTF-8 のバイトを一文字とみなす。

* `?` は区切り以外の一バイト、`*` は区切りを含まない並び
* `[…]` は集合、`[!…]` はその補集合
* `{a,b}` はどれか
* `**/` は前のディレクトリ、`/**` は中のすべて、`/**/` は間のディレクトリ
* `\` は次の文字をそのまま表す

閉じない `[` は文字として読む。閉じない波括弧、末尾の `\`、逆順の範囲は誤りとする。
-/

namespace CodeSearch.Glob

/-- グロブの部品。 -/
inductive Token where
  | literal (c : Char)
  | any
  | many
  /-- 先頭の `**/`。 -/
  | leadingDirs
  /-- 末尾の `/**`。 -/
  | trailingDirs
  /-- 途中の `/**/`。 -/
  | middleDirs
  | oneOf (negated : Bool) (ranges : List (Char × Char))
  | choice (branches : List (List Token))

/-! ## 集合 -/

/-- 集合の中身を読む。範囲は逆順に溜め、`pending` は範囲の途中かを表す。 -/
def readSet (first pending : Bool) (ranges : List (Char × Char)) :
    List Char → Option (List (Char × Char) × List Char)
  | [] => none
  | c :: cs =>
    if c = ']' && !first then
      some ((if pending then ('-', '-') :: ranges else ranges).reverse, cs)
    else if c = '-' && !first && !pending then readSet false true ranges cs
    else
      match pending, ranges with
      | true, (lo, _) :: rest => readSet false false ((lo, c) :: rest) cs
      | _, _ => readSet false false ((c, c) :: ranges) cs

theorem length_readSet {first pending : Bool} {ranges out : List (Char × Char)}
    {cs rest : List Char} (h : readSet first pending ranges cs = some (out, rest)) :
    rest.length < cs.length := by
  induction cs generalizing first pending ranges with
  | nil => simp [readSet] at h
  | cons c cs ih =>
    unfold readSet at h
    split at h
    · simp only [Option.some.injEq, Prod.mk.injEq] at h
      simp [h.2]
    · split at h
      · exact Nat.lt_succ_of_lt (ih h)
      · split at h <;> exact Nat.lt_succ_of_lt (ih h)

/-- 集合の先頭の否定。 -/
def readNegation : List Char → Bool × List Char
  | '!' :: cs => (true, cs)
  | '^' :: cs => (true, cs)
  | cs => (false, cs)

theorem length_readNegation (cs : List Char) : (readNegation cs).2.length ≤ cs.length := by
  unfold readNegation
  split <;> simp

/-- 括弧の後ろから集合を読む。 -/
def readClass (cs : List Char) : Option (Bool × List (Char × Char) × List Char) :=
  let (negated, body) := readNegation cs
  (readSet true false [] body).map fun r => (negated, r)

theorem length_readClass {cs rest : List Char} {negated : Bool} {ranges : List (Char × Char)}
    (h : readClass cs = some (negated, ranges, rest)) : rest.length < cs.length := by
  unfold readClass at h
  simp only [Option.map_eq_some_iff, Prod.mk.injEq] at h
  obtain ⟨r, hr, _, hrest⟩ := h
  have h1 : r.2.length < (readNegation cs).2.length := length_readSet hr
  have h2 := length_readNegation cs
  subst hrest
  exact Nat.lt_of_lt_of_le h1 h2

/-! ## 部品に切る -/

/-- 読みかけのグロブ。部品の列はどれも逆順である。 -/
structure Reading where
  /-- 今の枝の部品。 -/
  current : List Token := []
  /-- 外側の波括弧。読んだ枝と、外側の部品をもつ。 -/
  outer : List (List (List Token) × List Token) := []
  /-- 直前の文字。 -/
  prev : Option Char := none

namespace Reading

/-- 部品を足す。 -/
def push (r : Reading) (prev : Char) (t : Token) : Reading :=
  { r with current := t :: r.current, prev := some prev }

/-- 次の文字で枝が終わるか。 -/
def endsBranch (r : Reading) : List Char → Bool
  | [] => true
  | c :: _ => !r.outer.isEmpty && (c == ',' || c == '}')

/-- 二つ続いた `*` を読む。前後が区切りでなければ、ただの `*` とみなす。 -/
def pushDoubleStar (r : Reading) (rest : List Char) : Reading × List Char :=
  let plain := ({ r with current := .many :: .many :: r.current, prev := some '*' }, rest)
  if r.current.isEmpty then
    match rest with
    | [] => (r.push '*' .leadingDirs, [])
    | '/' :: rest => (r.push '/' .leadingDirs, rest)
    | _ => plain
  else if r.prev == some '/' then
    let onto := fun (prev : Char) (t : Token) =>
      match r.current with
      | .leadingDirs :: _ => { r with prev := some prev }
      | .trailingDirs :: _ => { r with prev := some prev }
      | _ :: before => { r with current := t :: before, prev := some prev }
      | [] => r
    if r.endsBranch rest then (onto '*' .trailingDirs, rest)
    else
      match rest with
      | '/' :: rest => (onto '/' .middleDirs, rest)
      | _ => plain
  else plain

theorem length_pushDoubleStar (r : Reading) (rest : List Char) :
    (r.pushDoubleStar rest).2.length ≤ rest.length := by
  unfold pushDoubleStar
  dsimp only
  split
  · split <;> simp
  · split
    · split
      · simp
      · split <;> simp
    · simp

/-- 波括弧を閉じる。 -/
def close (r : Reading) : Option Reading :=
  match r.outer with
  | [] => none
  | (branches, before) :: outer =>
    some { current := .choice ((r.current.reverse :: branches).reverse) :: before, outer,
           prev := some '}' }

end Reading

/-- 集合の範囲がどれも逆順でないか。 -/
def isOrderly (ranges : List (Char × Char)) : Bool := ranges.all fun r => r.1 ≤ r.2

/-- 部品に切る。 -/
def readFrom (r : Reading) (cs : List Char) : Option (List Token) :=
  match cs with
  | [] => if r.outer.isEmpty then some r.current.reverse else none
  | '?' :: cs => readFrom (r.push '?' .any) cs
  | '*' :: '*' :: cs => readFrom (r.pushDoubleStar cs).1 (r.pushDoubleStar cs).2
  | '*' :: cs => readFrom (r.push '*' .many) cs
  | '[' :: cs =>
    match _h : readClass cs with
    | none => readFrom (r.push '[' (.literal '[')) cs
    | some (negated, ranges, rest) =>
      if isOrderly ranges then readFrom (r.push ']' (.oneOf negated ranges)) rest else none
  | '{' :: cs =>
    readFrom { current := [], outer := ([], r.current) :: r.outer, prev := some '{' } cs
  | '}' :: cs =>
    match r.close with
    | some r => readFrom r cs
    | none => none
  | ',' :: cs =>
    match r.outer with
    | [] => readFrom (r.push ',' (.literal ',')) cs
    | (branches, before) :: outer =>
      readFrom { current := [], outer := (r.current.reverse :: branches, before) :: outer,
                 prev := some ',' } cs
  | '\\' :: c :: cs => readFrom (r.push c (.literal c)) cs
  | ['\\'] => none
  | c :: cs => readFrom (r.push c (.literal c)) cs
  termination_by cs.length
  decreasing_by
    all_goals simp only [List.length_cons]
    all_goals try omega
    · have := r.length_pushDoubleStar cs
      omega
    · have := length_readClass _h
      omega

/-- グロブを読む。誤りがあれば読めない。 -/
def read? (glob : String) : Option (List Token) := readFrom {} glob.toList

/-! ## 照合 -/

/-- バイトを一文字とみなした列。 -/
def ofBytes (bs : List UInt8) : List Char := bs.map fun b => Char.ofNat b.toNat

/-- 文字を書いたバイトを、一文字とみなした列。 -/
def bytes (c : Char) : List Char := ofBytes (String.utf8EncodeChar c)

/-- 範囲に入るバイトの、両端の組の列。 -/
def byteRanges (r : Char × Char) : List (Char × Char) :=
  let lo := bytes r.1
  let hi := bytes r.2
  if r.1 = r.2 then lo.map fun b => (b, b)
  else
    (lo.dropLast.map fun b => (b, b)) ++ [(lo.getLastD r.1, hi.headD r.2)]
      ++ (hi.drop 1).map fun b => (b, b)

/-- 範囲のどれかに入るか。 -/
def inRanges (ranges : List (Char × Char)) (c : Char) : Bool :=
  ranges.any fun r => r.1 ≤ c && c ≤ r.2

open Pattern

/-- 区切り。 -/
def separator : Pattern := one (· == '/')

/-- 何文字でもよい並び。 -/
def anything : Pattern := Pattern.many fun _ => true

mutual
/-- 部品の形。 -/
def Token.pattern : Token → Pattern
  | .literal c => seqs ((bytes c).map fun b => one (· == b))
  | .any => one (· != '/')
  | .many => Pattern.many (· != '/')
  | .leadingDirs => alt (maybe separator) (seq anything separator)
  | .trailingDirs => seq separator anything
  | .middleDirs => alt separator (seqs [separator, anything, separator])
  | .oneOf negated ranges => one fun b => inRanges (ranges.flatMap byteRanges) b != negated
  | .choice branches => anyOf (branchPatterns branches)

/-- 部品の列の形。 -/
def tokensPattern : List Token → Pattern
  | [] => empty
  | t :: ts => seq t.pattern (tokensPattern ts)

/-- 枝の形。 -/
def branchPatterns : List (List Token) → List Pattern
  | [] => []
  | b :: bs => tokensPattern b :: branchPatterns bs
end

/-- グロブの形。`**` だけなら何にでも合う。 -/
def pattern : List Token → Pattern
  | [.leadingDirs] => anything
  | ts => tokensPattern ts

/-- パスを書いたバイトの全体に合うか。 -/
def isMatch (p : Pattern) (path : List UInt8) : Bool :=
  !(run (seq p textEnd) (Cursor.ofText (ofBytes path))).isEmpty

end CodeSearch.Glob
