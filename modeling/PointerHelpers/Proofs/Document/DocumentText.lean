import PointerHelpers.Document.Values
import PointerHelpers.Proofs.Document.TemplateTrees

namespace PointerHelpers.Document

open Catalogue GoTemplates Template

def importPrefix (reference : Reference) : String :=
  let chosen := reference.localName.getD ""
  if chosen = "" then "" else chosen ++ " "

def importLine (reference : Reference) : String :=
  "\t" ++ importPrefix reference ++ "\"" ++ reference.locator ++ "\""

def importBlock (catalogue : Catalogue) : String :=
  if catalogue.types.any (·.reference.isSome) then
    lines (["", "import ("] ++ catalogue.requiredReferences.map importLine ++ [")"])
  else ""

def functionsOf : Kind → List (String → String → String)
  | .toPointer => [toPointer, toPointerSlice, toPointerMap]
  | .fromPointer => [fromPointer, fromPointerSlice, fromPointerMap]

def typeText (kind : Kind) (type : ScalarType) : String :=
  String.join ((functionsOf kind).map fun func => lines [""] ++ func type.displayName type.symbol)

def headerText (catalogue : Catalogue) (config : Config) : String :=
  lines ["// Code generated by " ++ config.generator ++ ". DO NOT EDIT.", "",
    "package " ++ config.package] ++ importBlock catalogue

def documentText (kind : Kind) (catalogue : Catalogue) (config : Config) : String :=
  headerText catalogue config ++ String.join (catalogue.types.map (typeText kind))

theorem distinctImports_eq_nil_iff (references : List Reference) :
    distinctImports ∅ references = [] ↔ references = [] := by
  cases references with
  | nil => simp [distinctImports]
  | cons reference rest => simp [distinctImports]

theorem isPresent_imports (catalogue : Catalogue) :
    (Value.list (catalogue.requiredReferences.map importScope)).isPresent =
      catalogue.types.any (·.reference.isSome) := by
  rw [Bool.eq_iff_iff, Value.isPresent, Bool.not_eq_true', List.isEmpty_eq_false_iff, ne_eq,
    List.map_eq_nil_iff, requiredReferences, distinctImports_eq_nil_iff, List.filterMap_eq_nil_iff]
  simp [Option.isSome_iff_ne_none]

theorem importPrefix_eq (reference : Reference) :
    importPrefix reference = (reference.chosenName.map (· ++ " ")).getD "" := by
  obtain ⟨locator, localName⟩ := reference
  cases localName with
  | none => rfl
  | some chosen =>
    by_cases hc : chosen = ""
    · subst hc
      rfl
    · simp [importPrefix, Reference.chosenName, Option.filter, hc]

theorem get?_importScope (reference : Reference) :
    (importScope reference).get? "alias_prefix" = some (.text (importPrefix reference)) := by
  rw [importPrefix_eq, importScope]
  cases reference.chosenName with
  | none => rfl
  | some chosen => rfl

variable {call : String → Scopes → Rendering} {template : String} {scopes : Scopes}

theorem text_importNodes (reference : Reference) :
    (renderNodes call template (importScope reference :: scopes) importNodes).text =
      .ok (importLine reference ++ "\n") := by
  have hp : ∀ node ∈ importNodes, node.IsPlain ["alias_prefix", "locator"] := by decide
  have hv : ∀ name ∈ ["alias_prefix", "locator"],
      Scopes.get? (importScope reference :: scopes) name =
        some (.text (if name = "locator" then reference.locator else importPrefix reference)) := by
    intro name hm
    rw [Scopes.get?, List.findSome?_cons]
    obtain rfl | rfl := List.mem_pair.mp hm
    · rw [get?_importScope]
      rfl
    · rfl
  rw [text_renderNodes_plain hp hv]
  simp [importNodes, fillAll, Node.fill, importLine, lines, String.append_assoc]

theorem text_importBlockNodes {references : List Reference}
    (h : scopes.get? "imports" = some (.list (references.map importScope))) :
    (renderNodes call template scopes importBlockNodes).text =
      .ok (lines (["", "import ("] ++ references.map importLine ++ [")"])) := by
  have he : (renderNode call template scopes (.block .each "imports" importNodes)).text =
      .ok (lines (references.map importLine)) := by
    rw [lines, List.map_map]
    exact text_renderNode_each h fun reference _ => text_importNodes reference
  rw [importBlockNodes, text_renderNodes_cons (text_renderNode_text _)
    (text_renderNodes_cons he (text_renderNodes_cons (text_renderNode_text _) text_renderNodes_nil)),
    lines_append, lines_append, String.append_assoc, String.append_empty]

theorem text_headerNodes (catalogue : Catalogue) (config : Config) :
    (renderNodes call template [documentScope catalogue config] headerNodes).text =
      .ok (headerText catalogue config) := by
  have hg : (renderNode call template [documentScope catalogue config] (.value "generator")).text =
      .ok config.generator := text_renderNode_value rfl
  have hp : (renderNode call template [documentScope catalogue config] (.value "package")).text =
      .ok config.package := text_renderNode_value rfl
  have hi : (renderNode call template [documentScope catalogue config]
      (.block .when "imports" importBlockNodes)).text = .ok (importBlock catalogue) := by
    rw [importBlock, ← isPresent_imports]
    exact text_renderNode_when rfl (text_importBlockNodes rfl)
  rw [headerNodes, text_renderNodes_cons (text_renderNode_text _) (text_renderNodes_cons hg
    (text_renderNodes_cons (text_renderNode_text _) (text_renderNodes_cons hp
      (text_renderNodes_cons (text_renderNode_text _)
        (text_renderNodes_cons hi text_renderNodes_nil)))))]
  simp only [headerText, lines_cons, lines_nil, String.append_assoc, String.append_empty,
    String.empty_append]

theorem text_functionNodes {funcs : List FunctionTemplate} {code : FunctionTemplate → String}
    (h : ∀ func ∈ funcs, (call func.called scopes).text = .ok (code func)) :
    (renderNodes call template scopes (funcs.flatMap functionNodes)).text =
      .ok (String.join (funcs.map fun func => lines [""] ++ code func)) := by
  induction funcs with
  | nil => exact text_renderNodes_nil
  | cons func rest ih =>
    rw [List.forall_mem_cons] at h
    rw [List.flatMap_cons, functionNodes, List.cons_append, List.singleton_append, List.map_cons,
      String.join_cons, String.append_assoc]
    exact text_renderNodes_cons (text_renderNode_text _)
      (text_renderNodes_cons (text_renderNode_inclusion h.1) (ih h.2))

theorem get?_trees_header : (TemplateSet.mk trees).get? "header" = some headerNodes := rfl

theorem get?_trees_templateName (kind : Kind) :
    (TemplateSet.mk trees).get? kind.templateName = some (documentNodes kind) := by
  cases kind <;> rfl

theorem get?_trees_called {kind : Kind} {func : FunctionTemplate}
    (h : func ∈ FunctionTemplate.ofKind kind) :
    (TemplateSet.mk trees).get? func.called = some func.nodes := by
  obtain rfl | rfl | rfl | rfl | rfl | rfl := FunctionTemplate.eq_of_mem_ofKind h <;> rfl

theorem text_function {kind : Kind} {func : FunctionTemplate}
    (h : func ∈ FunctionTemplate.ofKind kind) (type : ScalarType) (levels : Nat) :
    ((TemplateSet.mk trees).renderWithin (levels + 1) func.called (typeScope type :: scopes)).text =
      .ok (func.code type.displayName type.symbol) := by
  have hv : ∀ name ∈ ["name", "symbol"], Scopes.get? (typeScope type :: scopes) name =
      some (.text (if name = "name" then type.displayName else type.symbol)) := by
    intro name hm
    obtain rfl | rfl := List.mem_pair.mp hm <;> rfl
  apply TemplateSet.text_renderWithin (get?_trees_called h)
  rw [text_renderNodes_plain (FunctionTemplate.isPlain_nodes h) hv, FunctionTemplate.fillAll_nodes h]
  rfl

theorem map_code_ofKind (kind : Kind) :
    (FunctionTemplate.ofKind kind).map FunctionTemplate.code = functionsOf kind := by
  cases kind <;> rfl

theorem text_types (kind : Kind) (types : List ScalarType) (levels : Nat)
    (h : scopes.get? "types" = some (.list (types.map typeScope))) :
    (renderNode ((TemplateSet.mk trees).renderWithin (levels + 1)) template scopes
      (.block .each "types" ((FunctionTemplate.ofKind kind).flatMap functionNodes))).text =
      .ok (String.join (types.map (typeText kind))) := by
  apply text_renderNode_each h
  intro type _
  rw [typeText, ← map_code_ofKind, List.map_map]
  exact text_functionNodes fun func hm => text_function hm type levels

theorem text_documentNodes (kind : Kind) (catalogue : Catalogue) (config : Config) (levels : Nat) :
    (renderNodes ((TemplateSet.mk trees).renderWithin (levels + 1)) template
      [documentScope catalogue config] (documentNodes kind)).text =
      .ok (documentText kind catalogue config) := by
  have hh : ((TemplateSet.mk trees).renderWithin (levels + 1) "header"
      [documentScope catalogue config]).text = .ok (headerText catalogue config) :=
    TemplateSet.text_renderWithin get?_trees_header (text_headerNodes catalogue config)
  have ht : (renderNode ((TemplateSet.mk trees).renderWithin (levels + 1)) template
      [documentScope catalogue config]
      (.block .each "types" ((FunctionTemplate.ofKind kind).flatMap functionNodes))).text =
      .ok (String.join (catalogue.types.map (typeText kind))) :=
    text_types kind catalogue.types levels rfl
  rw [documentNodes, text_renderNodes_cons (text_renderNode_inclusion hh)
    (text_renderNodes_cons ht text_renderNodes_nil), String.append_empty]
  rfl

theorem text_render (kind : Kind) (catalogue : Catalogue) (config : Config) :
    (render ⟨trees⟩ kind catalogue config).text = .ok (documentText kind catalogue config) :=
  TemplateSet.text_renderWithin (get?_trees_templateName kind)
    (text_documentNodes kind catalogue config _)

/-- The Go templates are well formed, and render to the text of the document. -/
theorem render_goTemplates : ∃ templates, GoTemplates.templates = .ok templates ∧
    ∀ (kind : Kind) (catalogue : Catalogue) (config : Config),
      (render templates kind catalogue config).text = .ok (documentText kind catalogue config) := by
  refine ⟨⟨trees⟩, templates_eq, fun kind catalogue config => ?_⟩
  exact text_render kind catalogue config

end PointerHelpers.Document
