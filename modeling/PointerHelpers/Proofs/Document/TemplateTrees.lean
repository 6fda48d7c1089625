import PointerHelpers.Document.GoTemplates
import PointerHelpers.Document.Kind
import PointerHelpers.Proofs.Template.RenderedText

namespace PointerHelpers.Document

open Template GoTemplates

theorem lines_nil : lines [] = "" := rfl

theorem lines_cons (text : String) (rest : List String) :
    lines (text :: rest) = text ++ "\n" ++ lines rest := by
  rw [lines, List.map_cons, String.join_cons]
  rfl

theorem lines_append (texts rest : List String) :
    lines (texts ++ rest) = lines texts ++ lines rest := by
  rw [lines, List.map_append, String.join_append]
  rfl

structure FunctionTemplate where
  called : String
  nodes : List Node
  code : String → String → String

namespace FunctionTemplate

def toPointer : FunctionTemplate where
  called := "to pointer func"
  nodes := [.text "// ", .value "name", .text " returns a pointer value for the ", .value "symbol",
    .text (lines [" value passed in."] ++ "func "), .value "name", .text "(v ", .value "symbol",
    .text ") *", .value "symbol", .text (lines [r" {", "\treturn &v", r"}"])]
  code := GoTemplates.toPointer

def toPointerSlice : FunctionTemplate where
  called := "to pointer slice func"
  nodes := [.text "// ", .value "name", .text "Slice returns a slice of ", .value "symbol",
    .text (lines [" pointers from the values",
      "// passed in. Each pointer refers to its own copy of the value."] ++ "func "),
    .value "name", .text "Slice(vs []", .value "symbol", .text ") []*", .value "symbol",
    .text (lines [r" {"] ++ "\tps := make([]*"), .value "symbol",
    .text (lines [", len(vs))", "\tfor i := range vs" ++ r" {", "\t\tv := vs[i]", "\t\tps[i] = &v",
      "\t" ++ r"}", "", "\treturn ps", r"}"])]
  code := GoTemplates.toPointerSlice

def toPointerMap : FunctionTemplate where
  called := "to pointer map func"
  nodes := [.text "// ", .value "name", .text "Map returns a map of ", .value "symbol",
    .text (lines [" pointers from the values",
      "// passed in. Each pointer refers to its own copy of the value."] ++ "func "),
    .value "name", .text "Map(vs map[string]", .value "symbol", .text ") map[string]*",
    .value "symbol", .text (lines [r" {"] ++ "\tps := make(map[string]*"), .value "symbol",
    .text (lines [", len(vs))", "\tfor k := range vs" ++ r" {", "\t\tv := vs[k]", "\t\tps[k] = &v",
      "\t" ++ r"}", "", "\treturn ps", r"}"])]
  code := GoTemplates.toPointerMap

def fromPointer : FunctionTemplate where
  called := "from pointer func"
  nodes := [.text "// To", .value "name", .text " returns the ", .value "symbol",
    .text " value p points to, or the ", .value "symbol",
    .text (lines ["", "// zero value if p is nil."] ++ "func To"), .value "name", .text "(p *",
    .value "symbol", .text ") (v ", .value "symbol",
    .text (lines [r") {", "\tif p == nil" ++ r" {", "\t\treturn v", "\t" ++ r"}", "", "\treturn *p",
      r"}"])]
  code := GoTemplates.fromPointer

def fromPointerSlice : FunctionTemplate where
  called := "from pointer slice func"
  nodes := [.text "// To", .value "name", .text "Slice returns a slice of the ", .value "symbol",
    .text (lines [" values the pointers"] ++ "// passed in point to. Nil pointers become the "),
    .value "symbol", .text (lines [" zero value."] ++ "func To"), .value "name",
    .text "Slice(vs []*", .value "symbol", .text ") []", .value "symbol",
    .text (lines [r" {"] ++ "\tps := make([]"), .value "symbol",
    .text (lines [", len(vs))", "\tfor i, v := range vs" ++ r" {"] ++ "\t\tps[i] = To"), .value "name",
    .text (lines ["(v)", "\t" ++ r"}", "", "\treturn ps", r"}"])]
  code := GoTemplates.fromPointerSlice

def fromPointerMap : FunctionTemplate where
  called := "from pointer map func"
  nodes := [.text "// To", .value "name", .text "Map returns a map of the ", .value "symbol",
    .text (lines [" values the pointers"] ++ "// passed in point to. Nil pointers become the "),
    .value "symbol", .text (lines [" zero value."] ++ "func To"), .value "name",
    .text "Map(vs map[string]*", .value "symbol", .text ") map[string]", .value "symbol",
    .text (lines [r" {"] ++ "\tps := make(map[string]"), .value "symbol",
    .text (lines [", len(vs))", "\tfor k, v := range vs" ++ r" {"] ++ "\t\tps[k] = To"), .value "name",
    .text (lines ["(v)", "\t" ++ r"}", "", "\treturn ps", r"}"])]
  code := GoTemplates.fromPointerMap

def ofKind : Kind → List FunctionTemplate
  | .toPointer => [toPointer, toPointerSlice, toPointerMap]
  | .fromPointer => [fromPointer, fromPointerSlice, fromPointerMap]

theorem eq_of_mem_ofKind {kind : Kind} {func : FunctionTemplate} (h : func ∈ ofKind kind) :
    func = toPointer ∨ func = toPointerSlice ∨ func = toPointerMap ∨
      func = fromPointer ∨ func = fromPointerSlice ∨ func = fromPointerMap := by
  cases kind <;> simp only [ofKind, List.mem_cons, List.not_mem_nil, or_false] at h <;>
    obtain rfl | rfl | rfl := h <;> simp

theorem isPlain_nodes {kind : Kind} {func : FunctionTemplate} (h : func ∈ ofKind kind) :
    ∀ node ∈ func.nodes, node.IsPlain ["name", "symbol"] := by
  obtain rfl | rfl | rfl | rfl | rfl | rfl := eq_of_mem_ofKind h <;> decide

theorem fillAll_nodes {kind : Kind} {func : FunctionTemplate} (h : func ∈ ofKind kind)
    (values : String → String) :
    fillAll values func.nodes = func.code (values "name") (values "symbol") := by
  -- Both sides are brought to the same parts in a row; no part is taken apart into its characters.
  obtain rfl | rfl | rfl | rfl | rfl | rfl := eq_of_mem_ofKind h <;>
    simp only [toPointer, GoTemplates.toPointer, toPointerSlice, GoTemplates.toPointerSlice,
      toPointerMap, GoTemplates.toPointerMap, fromPointer, GoTemplates.fromPointer,
      fromPointerSlice, GoTemplates.fromPointerSlice, fromPointerMap, GoTemplates.fromPointerMap,
      fillAll, lines, Node.fill, List.map_cons, List.map_nil, String.join_cons, String.join_nil,
      String.append_assoc, String.append_empty, String.empty_append]

end FunctionTemplate

def importNodes : List Node :=
  [.text "\t", .value "alias_prefix", .text "\"", .value "locator", .text (lines ["\""])]

def importBlockNodes : List Node :=
  [.text (lines ["", "import ("]), .block .each "imports" importNodes, .text (lines [")"])]

def headerNodes : List Node :=
  [.text "// Code generated by ", .value "generator",
    .text (lines [". DO NOT EDIT.", ""] ++ "package "), .value "package", .text (lines [""]),
    .block .when "imports" importBlockNodes]

def functionNodes (func : FunctionTemplate) : List Node :=
  [.text (lines [""]), .inclusion func.called]

def documentNodes (kind : Kind) : List Node :=
  [.inclusion "header", .block .each "types" ((FunctionTemplate.ofKind kind).flatMap functionNodes)]

def trees : List (String × List Node) :=
  ("header", headerNodes) :: Kind.all.map (fun kind => (kind.templateName, documentNodes kind)) ++
    (Kind.all.flatMap FunctionTemplate.ofKind).map fun func => (func.called, func.nodes)

theorem isLaid_trees : ∀ tree ∈ trees, IsLaid true false (readNodes tree.2) := by
  decide +kernel

theorem layout_headerNodes : layout headerNodes = header := by
  decide +kernel

theorem layout_document (func sliceFunc mapFunc : FunctionTemplate) :
    layout [.inclusion "header",
      .block .each "types" ([func, sliceFunc, mapFunc].flatMap functionNodes)] =
      document func.called sliceFunc.called mapFunc.called := by
  rw [← String.toList_inj]
  simp [layout, readNodes, readNode, layoutEvents, functionNodes, Tag.layout, Tag.content,
    Tag.isValue, Block.keyword, document, lines, braced, openBraces, closeBraces]

theorem FunctionTemplate.layout_nodes {kind : Kind} {func : FunctionTemplate}
    (h : func ∈ ofKind kind) :
    layout func.nodes = func.code (braced "name") (braced "symbol") := by
  rw [layout_plain (isPlain_nodes h), fillAll_nodes h]

theorem texts_eq : texts = trees.map fun tree => (tree.1, layout tree.2) := by
  have hf : (Kind.all.flatMap FunctionTemplate.ofKind).map
      (fun func => (func.called, layout func.nodes)) =
      (Kind.all.flatMap FunctionTemplate.ofKind).map
        fun func => (func.called, func.code (braced "name") (braced "symbol")) := by
    apply List.map_congr_left
    intro func hm
    obtain ⟨kind, -, hk⟩ := List.mem_flatMap.mp hm
    rw [FunctionTemplate.layout_nodes hk]
  rw [trees, List.map_append, List.map_map, List.map_cons, List.map_map]
  simp only [Function.comp_def, layout_headerNodes, hf]
  simp only [Kind.all, List.map_cons, List.map_nil, documentNodes, FunctionTemplate.ofKind,
    layout_document]
  rfl

theorem templates_eq : templates = .ok ⟨trees⟩ := by
  rw [templates, texts_eq]
  exact TemplateSet.defineAll_layout trees .empty (by decide) isLaid_trees

end PointerHelpers.Document
