import CodeSearch.Language
import CodeSearch.Text.Utf8

/-!
# ファイルの名前

名前はバイトの列で、正しい UTF-8 とは限らない。文字列を UTF-8 で書いた名前は `FileName.ofString` で作る。
-/

namespace CodeSearch

/-- ファイルの名前。 -/
@[ext]
structure FileName where
  bytes : List UInt8
  deriving DecidableEq, Repr

namespace FileName

/-- 文字列を UTF-8 で書いた名前。 -/
def ofString (s : String) : FileName := ⟨Text.Utf8.encode s.toList⟩

instance : Coe String FileName := ⟨ofString⟩

/-- 名前を区切る `/`。 -/
def slash : UInt8 := 0x2F

/-- 点。 -/
def dot : UInt8 := 0x2E

/-- 隠れた名前か。 -/
def isHidden (name : FileName) : Bool := name.bytes.head? == some dot

/-- 拡張子から決めた言語。正しい UTF-8 でない拡張子は知らない拡張子である。 -/
def language (name : FileName) : Language :=
  let extension? := (Path.afterDot dot name.bytes).bind fun bytes =>
    String.fromUTF8? (ByteArray.mk bytes.toArray)
  (extension?.map Language.ofExtension).getD .unknown

end FileName

end CodeSearch
