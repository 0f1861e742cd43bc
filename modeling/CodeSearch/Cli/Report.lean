import CodeSearch.Engine
import CodeSearch.Json.Writer
import CodeSearch.Timestamp

/-!
# 結果の書き方

索引づけ・検索・索引の大きさの結果を、人が読む文と JSON に書く。
計ってみないと分からない値は `Measures` として受け取る。
-/

namespace CodeSearch.Report

/-- 計った値。 -/
structure Measures where
  /-- かかったミリ秒。 -/
  elapsed : Nat := 0
  /-- 索引の大きさのバイト数。 -/
  storage : Nat := 0

/-- 行を改行で閉じてつなぐ。 -/
def paragraph (lines : List String) : String := String.join (lines.map (· ++ "\n"))

/-! ## 索引づけ -/

/-- ミリ秒の秒での表記。小数点以下は一桁である。 -/
def secondsText (millis : Nat) : String :=
  Decimal.fixed (Float.ofNat millis / 1000) 1 ++ "s"

/-- 索引づけの結果の文。 -/
def indexText (m : Measures) (s : IndexSummary) : String :=
  if s.totalChunks = 0 && s.errors.isEmpty then
    paragraph ["Index is up to date (" ++ toString s.totalFiles ++ " files checked)"]
  else
    paragraph
      (["Indexed " ++ toString s.successfulChunks ++ "/" ++ toString s.totalChunks
          ++ " chunks from " ++ toString s.totalFiles ++ " files in " ++ secondsText m.elapsed]
        ++ (if s.cancelled then ["Stopped early; run `sift index` again to finish."] else [])
        ++ if s.errors.isEmpty then []
          else ["", toString s.errors.length ++ " problems:"] ++ s.errors.map ("  " ++ ·))

/-- 索引づけの結果の JSON。 -/
def indexJson (m : Measures) (s : IndexSummary) : Json :=
  .object
    [ ("success", .bool s.success), ("totalFiles", .nat s.totalFiles),
      ("totalChunks", .nat s.totalChunks), ("successfulChunks", .nat s.successfulChunks),
      ("failedChunks", .nat s.failedChunks), ("durationMs", .nat m.elapsed),
      ("errors", Json.strings s.errors), ("cancelled", .bool s.cancelled) ]

/-! ## 検索 -/

/-- 表示の点。付いていなければ類似度の百倍である。 -/
def scoreText (h : Hit Float) : String :=
  let x := h.normalized.getD (h.similarity * 100)
  if x.isNaN then "NaN" else Decimal.fixed x 0

/-- 一つの結果の文。本文は初めの三行だけを見せる。 -/
def hitLines (position : Nat) (h : Hit Float) : List String :=
  [toString position ++ ". " ++ h.chunk.path ++ ":" ++ toString h.chunk.firstLine ++ "-"
      ++ toString h.chunk.lastLine ++ " [" ++ h.chunk.kind.name ++ "] (" ++ scoreText h ++ ")"]
    ++ ((Text.lines h.chunk.text).take 3).map ("   " ++ ·) ++ [""]

/-- 検索の答えの文。 -/
def searchText (m : Measures) (s : SearchSummary Float) : String :=
  if !s.indexReady then paragraph ["Nothing indexed yet. Run `sift index` first."]
  else if s.results.isEmpty then paragraph ["No results found."]
  else
    paragraph ((s.results.mapIdx fun i h => hitLines (i + 1) h).flatten
      ++ [toString s.totalResults ++ " results in " ++ toString m.elapsed ++ "ms"])

/-- ベクトルの JSON。 -/
def vectorJson (v : Vec) : Json := .array (v.map fun x => Json.ofFloat (Vec.widen x.toFloat32))

/-- 断片の JSON。 -/
def chunkJson (c : Chunk) : Json :=
  .object
    ([ ("id", .string c.id), ("filePath", .string c.path), ("startLine", .nat c.firstLine),
        ("endLine", .nat c.lastLine), ("text", .string c.text), ("type", .string c.kind.name),
        ("language", .string c.language), ("sequenceIndex", .nat c.sequence),
        ("createdAt", .string (Timestamp.text c.createdAt)) ]
      ++ (c.vector.map fun v => ("vector", vectorJson v)).toList)

/-- 一つの結果の JSON。付いている点だけを書く。 -/
def hitJson (h : Hit Float) : Json :=
  let score := fun (name : String) (s : Option Float) =>
    (s.map fun x => (name, Json.ofFloat x)).toList
  .object
    ([("chunk", chunkJson h.chunk), ("similarity", Json.ofFloat h.similarity)]
      ++ score "normalizedScore" h.normalized ++ score "reRankScore" h.rerankScore
      ++ score "fusionScore" h.fusionScore)

/-- 検索の答えの JSON。 -/
def searchJson (m : Measures) (s : SearchSummary Float) : Json :=
  .object
    ([ ("query", .string s.query), ("results", .array (s.results.map hitJson)),
        ("totalResults", .nat s.totalResults), ("searchTimeMs", .nat m.elapsed),
        ("indexReady", .bool s.indexReady) ]
      ++ (s.error.map fun e => ("error", Json.string e)).toList)

/-! ## 索引の大きさ -/

/-- ベクトルの長さの表記。決まっていなければ横線である。 -/
def dimensionsText (d : Option Nat) : String := (d.map toString).getD "-"

/-- 索引の大きさの文。 -/
def statsText (m : Measures) (path : String) (s : Store) : String :=
  paragraph
    [ "Index:      " ++ path,
      "Files:      " ++ toString s.fileCount,
      "Chunks:     " ++ toString s.chunkCount,
      "Dimensions: " ++ dimensionsText s.dimensions,
      "Keyword:    " ++ (if s.hasKeywords then "on" else "off"),
      "Size:       " ++ toString m.storage ++ " bytes" ]

/-- 索引の大きさの JSON。 -/
def statsJson (m : Measures) (path : String) (s : Store) : Json :=
  .object
    [ ("dimensions", Json.ofOption .nat s.dimensions), ("indexed", .bool true),
      ("lexical", .bool s.hasKeywords), ("path", .string path),
      ("stats", .object [("chunkCount", .nat s.chunkCount), ("fileCount", .nat s.fileCount),
        ("storageBytes", .nat m.storage)]) ]

end CodeSearch.Report
