import CodeSearch.ChunkType
import CodeSearch.Syntax.Tree

/-!
# 部品の種類

マークアップに埋め込まれたスクリプトの節から、部品としての役割を読む。
設定を並べる書き方（`export default (data, computed, …)`）と、
関数を呼ぶ書き方（`const x = computed(…)`、`onMounted(…)`）の両方を扱う。
-/

namespace CodeSearch.Component

/-- 設定を並べる書き方での、生存期間の関数。 -/
def optionHooks : List String :=
  ["beforeCreate", "created", "beforeMount", "mounted", "beforeUpdate", "updated", "beforeUnmount",
    "unmounted", "beforeDestroy", "destroyed", "activated", "deactivated", "errorCaptured"]

/-- 関数を呼ぶ書き方での、生存期間の関数。 -/
def compositionHooks : List String :=
  ["onBeforeMount", "onMounted", "onBeforeUpdate", "onUpdated", "onBeforeUnmount", "onUnmounted",
    "onActivated", "onDeactivated", "onErrorCaptured", "onMount", "onDestroy", "beforeUpdate",
    "afterUpdate"]

/-- 宣言の初期値として呼ばれる関数の役割。 -/
def initializerRoles : List (String × ChunkType) :=
  [("computed", .computed), ("ref", .data), ("reactive", .data), ("shallowRef", .data),
    ("shallowReactive", .data), ("toRefs", .data), ("defineProps", .data), ("withDefaults", .data),
    ("watch", .watch), ("watchEffect", .watch), ("defineComponent", .component)]

/-- 文として呼ばれる関数の役割。 -/
def callRoles : List (String × ChunkType) :=
  [("watch", .watch), ("watchEffect", .watch), ("defineProps", .data), ("defineEmits", .data),
    ("provide", .data)]

/-- 設定の名前の役割。 -/
def optionRoles : List (String × ChunkType) :=
  [("data", .data), ("props", .data), ("setup", .data), ("computed", .computed), ("watch", .watch),
    ("methods", .method)]

/-- 呼び出しなら、呼ばれる関数の名前。 -/
def callee? (src : Source) (n : Node) : Option String :=
  if n.kind == "call_expression" then (n.field? "function").map src.nodeText else none

/-- 宣言の役割。初期値が決まった関数の呼び出しである最初の変数が決める。 -/
def ofDeclaration (src : Source) (n : Node) : Option ChunkType :=
  n.children.findSome? fun declarator => do
    let value ← declarator.field? "value"
    let name ← callee? src value
    initializerRoles.lookup name

/-- 公開の文の役割。 -/
def ofExport (src : Source) (n : Node) : Option ChunkType := do
  let value ← n.field? "value"
  if value.kind == "object" then some .component
  else if callee? src value == some "defineComponent" then some .component
  else none

/-- 式の文の役割。 -/
def ofCall (src : Source) (n : Node) : Option ChunkType := do
  let call ← n.children.find? (·.kind == "call_expression")
  let name ← callee? src call
  if compositionHooks.contains name then some .lifecycle else callRoles.lookup name

/-- 文の役割。 -/
def ofStatement (src : Source) (n : Node) : Option ChunkType :=
  if n.kind == "export_statement" then ofExport src n
  else if n.kind == "expression_statement" then ofCall src n
  else none

/-- 両端の引用符を落とす。 -/
def unquote (s : String) : String :=
  let isQuote := fun c : Char => c == '"' || c == '\''
  String.ofList (((s.toList.dropWhile isQuote).reverse.dropWhile isQuote).reverse)

/-- 設定の一項目の名前を持つ節。 -/
def optionKey? (n : Node) : Option Node :=
  if n.kind == "method_definition" then n.field? "name"
  else if n.kind == "pair" then n.field? "key"
  else none

/-- 設定の一項目の役割。 -/
def ofOption (src : Source) (n : Node) : Option ChunkType := do
  let key ← optionKey? n
  let name := unquote (src.nodeText key)
  if optionHooks.contains name then some .lifecycle else optionRoles.lookup name

end CodeSearch.Component
