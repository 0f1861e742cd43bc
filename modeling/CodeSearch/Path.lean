/-!
# パス

`/` で区切った文字列としてのパスから、末尾の名前と拡張子を読む。
空の成分と `.` の成分は無いものとみなす。末尾の成分が `..` なら名前はない。
-/

namespace CodeSearch.Path

/-- 区切り文字で切る。途中の成分は逆順で持つ。 -/
def splitFrom (current : List Char) : List Char → List String
  | [] => [String.ofList current.reverse]
  | c :: rest =>
    if c = '/' then String.ofList current.reverse :: splitFrom [] rest
    else splitFrom (c :: current) rest

/-- 空と `.` を除いた成分。 -/
def components (path : String) : List String :=
  (splitFrom [] path.toList).filter (fun s => s != "" && s != ".")

/-- 末尾の名前。根や `..` で終わるパスにはない。 -/
def fileName? (path : String) : Option String :=
  match (components path).getLast? with
  | some ".." => none
  | other => other

/-- 名前の最後の点より後ろ。点がないか、先頭にしかなければない。 -/
def afterDot {α : Type} [BEq α] (dot : α) (name : List α) : Option (List α) :=
  let cs := name.reverse
  let tail := cs.takeWhile (· != dot)
  let head := (cs.dropWhile (· != dot)).drop 1
  if tail.length == cs.length || head.isEmpty then none else some tail.reverse

/-- 名前の拡張子。 -/
def extensionOf (name : String) : Option String := (afterDot '.' name.toList).map String.ofList

/-- 末尾の名前の拡張子。 -/
def extension? (path : String) : Option String := (fileName? path).bind extensionOf

end CodeSearch.Path
