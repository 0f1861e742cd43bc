/-!
# 全文索引

語の索引は外の仕組みが持つ。保存先は、行を足す・消すたびに命令を一つずつ送り、式に合う行の番号を問う。
索引の中身は行の写しなので、消すときは消す行の中身も送る。

外の仕組みは、それまでに送られた命令の列に、式を問われたときに答える関数として受け取る。
どのように語に切り、どの順に答えるかは、ここでは決めない。

* `Command` — 送る命令
* `documents` — 命令を順に聞いたときに、索引が持つはずの行
* `FullText` — 外の仕組み
-/

namespace CodeSearch.Keyword

/-- 索引に写す行の中身。二つの欄がある。 -/
structure Document where
  row : Nat
  text : String
  terms : String
  deriving DecidableEq, Repr

/-- 索引に送る命令。 -/
inductive Command where
  /-- 行を足す。 -/
  | insert (d : Document)
  /-- 行を消す。消す行の中身を添える。 -/
  | delete (d : Document)
  /-- すべての行を読み直して作り直す。 -/
  | rebuild (ds : List Document)
  deriving DecidableEq, Repr

/-- 命令の後に索引が持つ行。 -/
def Command.apply (ds : List Document) : Command → List Document
  | .insert d => ds ++ [d]
  | .delete d => ds.erase d
  | .rebuild all => all

/-- 作ったばかりの索引に命令を順に送った後に、索引が持つ行。 -/
def documents (log : List Command) : List Document := log.foldl Command.apply []

/-- 全文索引の仕組み。 -/
structure FullText where
  /-- 命令の列を聞いた索引で、式に合う行の番号。良いものから並ぶ。 -/
  search : List Command → String → Except String (List Nat)

end CodeSearch.Keyword
