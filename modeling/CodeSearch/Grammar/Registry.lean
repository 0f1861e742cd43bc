import CodeSearch.Language

/-!
# 文法の保管

文法は初めて求められたときに一度だけ読み込み、結果を失敗も含めて覚えておく。
読み込みは言語から結果への関数 `Loader` として与える。

* `Loader.load` は読み込んだ結果に、どの言語のものかを付ける。
* `Registry.get` は文法を返し、保管を進める。
* `Registry.supports` は読み込まずに答える。まだ読んでいない言語は「ある」とみなす。
* `Registry.clear` は覚えた結果だけを、`Registry.reset` は回数も捨てる。
-/

namespace CodeSearch

/-- 組み込みの文法。版が合わないものは、読み込めても構文解析に使えない。 -/
structure CompiledGrammar where
  usable : Bool := true
  deriving DecidableEq, Repr

/-- 読み込んだ文法。 -/
structure Grammar extends CompiledGrammar where
  /-- どの言語のために読み込んだか。 -/
  language : Language
  deriving DecidableEq, Repr

/-- 文法の読み込み。読めない言語は `none` になる。 -/
abbrev Loader := Language → Option CompiledGrammar

namespace Loader

/-- 備え付けの文法の読み込み。PHP の文法は版が合わないので拒む。 -/
def builtin : Loader := fun l =>
  if l.hasGrammar && l != .php then some {} else none

/-- 一部の言語がない読み込み。版は確かめないので、PHP は読めるが使えない。 -/
def lacking (missing : List Language) : Loader := fun l =>
  if l.hasGrammar && !missing.contains l then some { usable := l != .php } else none

/-- 読み込んで、その言語の文法とする。 -/
def load (loader : Loader) (l : Language) : Option Grammar :=
  (loader l).map fun compiled => { compiled with language := l }

end Loader

/-- 文法の保管。 -/
structure Registry where
  loader : Loader
  /-- 読み込んだ結果。後に読んだものほど前にある。 -/
  loaded : List (Language × Option Grammar) := []
  /-- 読み込んだ回数。 -/
  loads : Nat := 0

namespace Registry

/-- 何も読み込んでいない保管。 -/
def ofLoader (loader : Loader) : Registry := { loader }

/-- 文法を返す。初めてなら読み込んで覚える。 -/
def get (r : Registry) (l : Language) : Option Grammar × Registry :=
  if l = .unknown then (none, r)
  else
    match r.loaded.lookup l with
    | some known => (known, r)
    | none =>
      let g := r.loader.load l
      (g, { r with loaded := (l, g) :: r.loaded, loads := r.loads + 1 })

/-- 文法を求めた後の保管。 -/
def request (r : Registry) (l : Language) : Registry := (r.get l).2

/-- その言語を扱えるか。読み込みに失敗したことがなければ扱えるとみなす。 -/
def supports (r : Registry) (l : Language) : Bool :=
  l != .unknown &&
    match r.loaded.lookup l with
    | some known => known.isSome
    | none => true

/-- 覚えた結果を捨てる。 -/
def clear (r : Registry) : Registry := { r with loaded := [] }

/-- 覚えた結果と回数を捨てる。 -/
def reset (r : Registry) : Registry := { r with loaded := [], loads := 0 }

end Registry

end CodeSearch
