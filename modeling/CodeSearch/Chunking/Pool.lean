import CodeSearch.Chunking

/-!
# ファイルを並行に切る

決まった数の作業者が、まだ切っていないファイルを前から一つずつ取り、切った結果を取った番号の場所に書く。
作業者は文法の保管を共有する。どの作業者がいつ進むかは決まっていないので、進む作業者の番号の列
（`schedule`）で表す。一度に進むのは、ファイルを一つ取る、保管に一度問う、結果を一つ書く、のどれかである。

列は途中で終わっていてもよい。`chunkThrough` は、そのとき残りの作業者を番号の順に一人ずつ、
やめるまで進める。
-/

namespace CodeSearch

/-- 作業者。 -/
inductive Worker where
  /-- 次のファイルを取るところである。 -/
  | free
  /-- `index` 番のファイルを切っている。 -/
  | busy (index : Nat) (rest : Access ChunkOutcome)
  /-- 取るファイルがなくなって、やめた。 -/
  | retired

/-- 作業者の集まり。 -/
structure Pool where
  registry : Registry
  /-- 次に取るファイルの番号。 -/
  next : Nat := 0
  /-- ファイルごとの結果。書かれるまではない。 -/
  results : List (Option ChunkOutcome)
  workers : List Worker

namespace Pool

/-- 始めるときの集まり。`n` は作業者の数である。 -/
def start (registry : Registry) (files : List SourceFile) (n : Nat) : Pool :=
  { registry, results := files.map fun _ => none, workers := List.replicate n .free }

/-- `w` 番の作業者が一つ進む。 -/
def turn (limits : ChunkLimits) (files : List SourceFile) (p : Pool) (w : Nat) : Pool :=
  match p.workers[w]? with
  | some .free =>
    match files[p.next]? with
    | some file =>
      { p with
        next := p.next + 1
        workers := p.workers.set w (.busy p.next (Chunking.job limits file)) }
    | none => { p with next := p.next + 1, workers := p.workers.set w .retired }
  | some (.busy index rest) =>
    match rest.result? with
    | some outcome =>
      { p with
        results := p.results.set index (some outcome)
        workers := p.workers.set w .free }
    | none =>
      let (rest, registry) := rest.step p.registry
      { p with registry, workers := p.workers.set w (.busy index rest) }
  | some .retired | none => p

/-- 列のとおりに進む。 -/
def run (limits : ChunkLimits) (files : List SourceFile) (p : Pool) (schedule : List Nat) : Pool :=
  schedule.foldl (turn limits files) p

/-- 書かれた結果。ファイルの順に並ぶ。 -/
def outcomes (p : Pool) : List ChunkOutcome := p.results.filterMap id

/-! ## 残りの手番 -/

/-- 手の空いた作業者が一人で残りのファイルを切り、やめるまでの手数。 -/
def turnsAlone (limits : ChunkLimits) (registry : Registry) : List SourceFile → Nat
  | [] => 1
  | f :: fs =>
    let job := Chunking.job limits f
    job.asks registry + 2 + turnsAlone limits (job.run registry).2 fs

/-- `w` 番の作業者だけが進んで、やめるまでの手数。 -/
def turnsOf (limits : ChunkLimits) (files : List SourceFile) (p : Pool) (w : Nat) : Nat :=
  match p.workers[w]? with
  | some .free => turnsAlone limits p.registry (files.drop p.next)
  | some (.busy _ job) =>
    job.asks p.registry + 1 + turnsAlone limits (job.run p.registry).2 (files.drop p.next)
  | some .retired | none => 0

/-- 作業者が番号の列の順に一人ずつ、やめるまで進む手番の列。 -/
def turnsLeft (limits : ChunkLimits) (files : List SourceFile) (p : Pool) : List Nat → List Nat
  | [] => []
  | w :: ws =>
    let turns := List.replicate (p.turnsOf limits files w) w
    turns ++ turnsLeft limits files (p.run limits files turns) ws

end Pool

namespace Chunking

/-- 作業者の数。一人以上で、ファイルより多くはならない。 -/
def workerCount (maxWorkers files : Nat) : Nat := max 1 (min maxWorkers (max files 1))

/-- ファイルを多くても `maxWorkers` 人で切る。一人なら、順に切る。 -/
def chunkFiles (limits : ChunkLimits) (maxWorkers : Nat) (schedule : List Nat)
    (registry : Registry) (files : List SourceFile) : List ChunkOutcome × Registry :=
  let n := workerCount maxWorkers files.length
  if n = 1 then chunkAll limits registry files
  else
    let p := (Pool.start registry files n).run limits files schedule
    (p.outcomes, p.registry)

/-- ファイルの列を切る作業者の集まり。 -/
def team (maxWorkers : Nat) (registry : Registry) (files : List SourceFile) : Pool :=
  .start registry files (workerCount maxWorkers files.length)

/-- 列の残りを補って、すべてのファイルを切る。 -/
def chunkThrough (limits : ChunkLimits) (maxWorkers : Nat) (schedule : List Nat)
    (registry : Registry) (files : List SourceFile) : List ChunkOutcome × Registry :=
  let p := (team maxWorkers registry files).run limits files schedule
  let rest := p.turnsLeft limits files (List.range p.workers.length)
  chunkFiles limits maxWorkers (schedule ++ rest) registry files

end Chunking

end CodeSearch
