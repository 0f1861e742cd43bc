import CodeSearch.Language

/-!
# 構文木

構文解析の結果を、名前のある節だけの木で表す。節は本文の中の位置をバイトで持つ。
行と桁は、本文の改行を数えて求める。

一つのファイルから複数の木ができる（埋め込まれたスクリプトは別の言語で解析される）ので、
木は言語と始まりの位置で引く関数 `Trees` として与える。
-/

namespace CodeSearch

/-- 名前の付いた部分。子の番号か、名前のない字句である。 -/
inductive Field where
  | child (index : Nat)
  | token (kind : String) (start stop : Nat)
  deriving Repr

/-- 構文木の節。 -/
inductive Node where
  | mk (kind : String) (start stop : Nat) (children : List Node) (fields : List (String × Field))

namespace Node

/-- 節の種類。 -/
def kind : Node → String
  | .mk k _ _ _ _ => k

/-- 始まりのバイト位置。 -/
def start : Node → Nat
  | .mk _ s _ _ _ => s

/-- 終わりのバイト位置。 -/
def stop : Node → Nat
  | .mk _ _ e _ _ => e

/-- 名前のある子。 -/
def children : Node → List Node
  | .mk _ _ _ cs _ => cs

/-- 名前の付いた部分の一覧。 -/
def fields : Node → List (String × Field)
  | .mk _ _ _ _ fs => fs

/-- 名前の付いた部分。字句は子のない節とみなす。 -/
def field? (n : Node) (name : String) : Option Node :=
  match n.fields.lookup name with
  | some (.child i) => n.children[i]?
  | some (.token k s e) => some (.mk k s e [] [])
  | none => none

end Node

/-- 一つの言語で解析した結果。 -/
structure Tree where
  root : Node
  /-- 誤りを含むか。 -/
  hasError : Bool := false

/-- 言語と、本文の中の始まりの位置から、解析の結果を引く。 -/
abbrev Trees := Language → Nat → Option Tree

/-- 解析した本文。位置はバイトで数える。 -/
structure Source where
  bytes : List UInt8

namespace Source

/-- 改行のバイト。 -/
def newline : UInt8 := 10

/-- 文字列の本文。 -/
def ofString (s : String) : Source := ⟨s.toUTF8.toList⟩

/-- 位置より前の改行の数。 -/
def row (src : Source) (offset : Nat) : Nat := (src.bytes.take offset).count newline

/-- 位置が行の先頭か。 -/
def atLineStart (src : Source) (offset : Nat) : Bool :=
  match (src.bytes.take offset).getLast? with
  | none => true
  | some b => b == newline

/-- 範囲の中身。範囲が本文に収まらないか、文字の途中で切れていれば、ない。 -/
def text? (src : Source) (start stop : Nat) : Option String :=
  if start ≤ stop ∧ stop ≤ src.bytes.length then
    String.fromUTF8? (ByteArray.mk ((src.bytes.drop start).take (stop - start)).toArray)
  else none

/-- 節の中身。取り出せなければ空とする。 -/
def nodeText (src : Source) (n : Node) : String := (src.text? n.start n.stop).getD ""

/-- 節の始まりの行。0 から数える。 -/
def firstRow (src : Source) (n : Node) : Nat := src.row n.start

/-- 節の中身が終わる行。末尾の改行まで含む節は、次の行の先頭で終わるので一つ戻す。 -/
def lastRow (src : Source) (n : Node) : Nat :=
  let r := src.row n.stop
  if src.atLineStart n.stop && src.firstRow n < r then r - 1 else r

/-- 節がわたる行数。 -/
def rowSpan (src : Source) (n : Node) : Nat := src.lastRow n - src.firstRow n + 1

end Source

end CodeSearch
