/-!
# TOML の値

設定ファイルの値である。表は現れた順の組の列で、同じ名前は二度現れない。
日付と時刻は、どの設定項目の値にもならないので、書かれた文字だけを持つ。
-/

namespace CodeSearch

/-- TOML の値。 -/
inductive Toml where
  | string (s : String)
  | integer (i : Int)
  | float (x : Float)
  | boolean (b : Bool)
  | datetime (written : String)
  | array (items : List Toml)
  | table (entries : List (String × Toml))
  deriving Inhabited

end CodeSearch
