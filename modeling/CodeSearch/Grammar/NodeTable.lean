import CodeSearch.ChunkType
import CodeSearch.Language

/-!
# 節の種類の表

構文木を歩くときに、どの種類の節が何を意味するかを言語ごとに決める表である。
言語を足すには、ここに表を一つ足す。歩き方は変わらない。
-/

namespace CodeSearch

/-- 一つの文法で意味をもつ節の種類。 -/
structure NodeTable where
  /-- 最上位で断片を始める種類。 -/
  declarations : List (String × ChunkType)
  /-- 宣言を包む種類。中の宣言が種類を決め、なければ添えた種類にする。 -/
  wrappers : List (String × Option ChunkType) := []
  /-- 子を親と同じ深さにあるとみなす種類。 -/
  transparent : List String := []
  /-- 内側でも断片を始める、関数のような種類。 -/
  nestedFunctions : List String := []
  /-- 初期値が関数なら関数とみなす宣言の種類。 -/
  bindings : List String := []
  /-- 関数である式の種類。 -/
  functionValues : List String := []
  /-- 内側で何行かにわたれば断片を始める、JSX のような種類。 -/
  jsx : List String := []
  /-- 中へ降りない種類。 -/
  atomic : List String := []
  /-- 後ろの宣言に付く、注釈のような種類。 -/
  leading : List String := []

namespace NodeTable

/-- 最上位で始める断片の種類。 -/
def declared (t : NodeTable) (kind : String) : Option ChunkType := t.declarations.lookup kind

/-- 包む種類なら、宣言がないときの種類。 -/
def wrapped (t : NodeTable) (kind : String) : Option (Option ChunkType) := t.wrappers.lookup kind

/-- TypeScript の表。 -/
def typescript : NodeTable :=
  { declarations :=
      [("import_statement", .import), ("class_declaration", .class),
       ("abstract_class_declaration", .class), ("function_declaration", .function),
       ("generator_function_declaration", .function), ("function_signature", .function),
       ("interface_declaration", .interface), ("type_alias_declaration", .type),
       ("enum_declaration", .type), ("lexical_declaration", .variable),
       ("variable_declaration", .variable), ("internal_module", .namespace),
       ("module", .namespace)]
    wrappers :=
      [("export_statement", some .export), ("ambient_declaration", some .type),
       ("expression_statement", none)]
    nestedFunctions := ["function_declaration", "generator_function_declaration"]
    bindings := ["lexical_declaration", "variable_declaration"]
    functionValues :=
      ["arrow_function", "function_expression", "function", "generator_function"]
    atomic := ["class_body", "interface_body", "object_type"]
    leading := ["comment"] }

/-- TSX の表。JSX の要素を加える。 -/
def tsx : NodeTable :=
  { typescript with
    jsx := ["jsx_element", "jsx_self_closing_element"] }

/-- JavaScript の表。JSX の要素を加える。 -/
def javascript : NodeTable :=
  { typescript with
    jsx := ["jsx_element", "jsx_self_closing_element"] }

/-- Python の表。 -/
def python : NodeTable :=
  { declarations :=
      [("import_statement", .import), ("import_from_statement", .import),
       ("future_import_statement", .import), ("class_definition", .class),
       ("function_definition", .function), ("assignment", .variable)]
    wrappers := [("decorated_definition", none), ("expression_statement", none)]
    nestedFunctions := ["function_definition"]
    bindings := ["assignment"]
    functionValues := ["lambda"]
    atomic := ["class_definition"]
    leading := ["comment"] }

/-- Rust の表。 -/
def rust : NodeTable :=
  { declarations :=
      [("use_declaration", .import), ("extern_crate_declaration", .import),
       ("function_item", .function), ("function_signature_item", .function),
       ("struct_item", .class), ("union_item", .class), ("impl_item", .class),
       ("trait_item", .interface), ("enum_item", .type), ("type_item", .type),
       ("mod_item", .namespace), ("const_item", .variable), ("static_item", .variable),
       ("macro_definition", .function)]
    nestedFunctions := ["function_item"]
    atomic := ["impl_item", "trait_item"]
    leading := ["line_comment", "block_comment", "attribute_item"] }

/-- Go の表。 -/
def go : NodeTable :=
  { declarations :=
      [("package_clause", .namespace), ("import_declaration", .import),
       ("function_declaration", .function), ("method_declaration", .method),
       ("type_declaration", .type), ("var_declaration", .variable),
       ("const_declaration", .variable)]
    bindings := ["short_var_declaration", "var_declaration"]
    functionValues := ["func_literal"]
    leading := ["comment"] }

/-- Java の表。 -/
def java : NodeTable :=
  { declarations :=
      [("package_declaration", .namespace), ("import_declaration", .import),
       ("class_declaration", .class), ("record_declaration", .class),
       ("interface_declaration", .interface), ("annotation_type_declaration", .interface),
       ("enum_declaration", .type)]
    atomic := ["class_body", "interface_body", "enum_body"]
    leading := ["line_comment", "block_comment"] }

/-- C の表。 -/
def c : NodeTable :=
  { declarations :=
      [("preproc_include", .import), ("function_definition", .function),
       ("struct_specifier", .class), ("union_specifier", .class), ("enum_specifier", .type),
       ("preproc_def", .variable), ("preproc_function_def", .function),
       ("class_specifier", .class), ("namespace_definition", .namespace),
       ("alias_declaration", .type), ("using_declaration", .import),
       ("concept_definition", .type)]
    wrappers := [("declaration", some .variable), ("type_definition", some .type)]
    transparent := ["preproc_ifdef", "preproc_if", "preproc_else"]
    nestedFunctions := ["function_definition"]
    atomic := ["field_declaration_list", "compound_statement"]
    leading := ["comment"] }

/-- C++ の表。ひな型と連結指定を加える。 -/
def cpp : NodeTable :=
  { c with
    wrappers :=
      [("declaration", some .variable), ("type_definition", some .type),
       ("template_declaration", none)]
    transparent := ["preproc_ifdef", "preproc_if", "preproc_else", "linkage_specification"] }

/-- Ruby の表。 -/
def ruby : NodeTable :=
  { declarations :=
      [("class", .class), ("module", .namespace), ("method", .function),
       ("singleton_method", .method), ("assignment", .variable)]
    nestedFunctions := ["method", "singleton_method"]
    bindings := ["assignment"]
    functionValues := ["lambda"]
    atomic := ["class"]
    leading := ["comment"] }

/-- PHP の表。 -/
def php : NodeTable :=
  { declarations :=
      [("namespace_definition", .namespace), ("namespace_use_declaration", .import),
       ("class_declaration", .class), ("trait_declaration", .class),
       ("interface_declaration", .interface), ("enum_declaration", .type),
       ("function_definition", .function), ("const_declaration", .variable),
       ("include_expression", .import), ("include_once_expression", .import),
       ("require_expression", .import), ("require_once_expression", .import),
       ("assignment_expression", .variable)]
    wrappers := [("expression_statement", none)]
    nestedFunctions := ["function_definition"]
    bindings := ["assignment_expression"]
    functionValues := ["anonymous_function", "arrow_function"]
    atomic := ["declaration_list"]
    leading := ["comment"] }

/-- Kotlin の表。 -/
def kotlin : NodeTable :=
  { declarations :=
      [("package_header", .namespace), ("import", .import), ("import_header", .import),
       ("import_list", .import), ("class_declaration", .class), ("object_declaration", .class),
       ("function_declaration", .function), ("property_declaration", .variable),
       ("type_alias", .type)]
    nestedFunctions := ["function_declaration"]
    bindings := ["property_declaration"]
    functionValues := ["lambda_literal", "anonymous_function"]
    atomic := ["class_body", "enum_class_body"]
    leading := ["line_comment", "block_comment", "multiline_comment"] }

/-- Swift の表。 -/
def swift : NodeTable :=
  { declarations :=
      [("import_declaration", .import), ("class_declaration", .class),
       ("protocol_declaration", .interface), ("function_declaration", .function),
       ("property_declaration", .variable), ("typealias_declaration", .type)]
    nestedFunctions := ["function_declaration"]
    bindings := ["property_declaration"]
    functionValues := ["lambda_literal"]
    atomic := ["class_body", "protocol_body", "enum_class_body"]
    leading := ["comment", "multiline_comment"] }

/-- マークアップの表。 -/
def markup : NodeTable :=
  { declarations :=
      [("script_element", .script), ("style_element", .css), ("element", .template)]
    atomic := ["script_element", "style_element", "element"]
    leading := ["comment"] }

/-- 言語の表。`unknown` にはない。 -/
def ofLanguage : Language → Option NodeTable
  | .rust => some rust
  | .python => some python
  | .typescript => some typescript
  | .tsx => some tsx
  | .javascript => some javascript
  | .go => some go
  | .java => some java
  | .c => some c
  | .cpp => some cpp
  | .ruby => some ruby
  | .php => some php
  | .kotlin => some kotlin
  | .swift => some swift
  | .html | .vue | .svelte => some markup
  | .unknown => none

end NodeTable

end CodeSearch
