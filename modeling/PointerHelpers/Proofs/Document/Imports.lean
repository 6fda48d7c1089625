import PointerHelpers.Proofs.Document.DocumentLines

namespace PointerHelpers.Document

open Catalogue Text

structure Import where
  chosen : Option String
  path : String
  deriving DecidableEq

namespace Import

def name (package : Import) : String :=
  package.chosen.getD (Reference.lastSegment package.path)

def ofReference (reference : Reference) : Import := ⟨reference.chosenName, reference.locator⟩

end Import

/-- A path in quotes without an escape, and nothing after it. -/
def readPath? : List Char → Option String
  | '"' :: cs =>
    let path := cs.takeWhile (· != '"')
    if cs = path ++ ['"'] ∧ '\\' ∉ path then some (.ofList path) else none
  | _ => none

def readImport? (line : String) : Option Import :=
  let content := line.toList.dropWhile isWhite
  let name := content.takeWhile isNamePart
  if isIdentifier name then
    (readPath? ((content.dropWhile isNamePart).dropWhile isWhite)).map (⟨some (.ofList name), ·⟩)
  else (readPath? content).map (⟨none, ·⟩)

/-- For each line that opens a block of imports, the lines from there to the closing bracket. -/
def importBlocks : List String → List (List String)
  | [] => []
  | line :: rest =>
    if line = "import (" then rest.takeWhile (· != ")") :: importBlocks rest else importBlocks rest

def IsQuotable (path : String) : Prop := '"' ∉ path.toList ∧ '\\' ∉ path.toList

def quoted (path : String) : List Char := '"' :: (path.toList ++ ['"'])

theorem readPath?_quoted {path : String} (h : IsQuotable path) :
    readPath? (quoted path) = some path := by
  have ht : (path.toList ++ ['"']).takeWhile (· != '"') = path.toList :=
    takeWhile_ne_append h.1 []
  simp only [quoted, readPath?, ht]
  rw [if_pos ⟨trivial, h.2⟩, String.ofList_toList]

theorem dropWhile_isWhite_quoted (path : String) :
    (quoted path).dropWhile isWhite = quoted path :=
  List.dropWhile_cons_of_neg (by decide)

theorem readImport?_path {line path : String} (h : IsQuotable path)
    (hl : line.toList = '\t' :: quoted path) : readImport? line = some ⟨none, path⟩ := by
  have hd : line.toList.dropWhile isWhite = quoted path := by
    rw [hl, List.dropWhile_cons_of_pos (by decide), dropWhile_isWhite_quoted]
  have ht : (quoted path).takeWhile isNamePart = [] :=
    List.takeWhile_cons_of_neg (by decide +kernel)
  simp only [readImport?, hd, ht]
  rw [readPath?_quoted h]
  rfl

theorem readImport?_chosen {line chosen path : String} (h : IsQuotable path)
    (hi : isIdentifier chosen.toList = true)
    (hl : line.toList = '\t' :: (chosen.toList ++ ' ' :: quoted path)) :
    readImport? line = some ⟨some chosen, path⟩ := by
  have hd : line.toList.dropWhile isWhite = chosen.toList ++ ' ' :: quoted path := by
    rw [hl, List.dropWhile_cons_of_pos (by decide), dropWhile_isWhite_of_isIdentifier hi]
  have hs : ¬ isNamePart ' ' = true := by decide +kernel
  have ht : (chosen.toList ++ ' ' :: quoted path).takeWhile isNamePart = chosen.toList := by
    rw [List.takeWhile_append_of_pos (isNamePart_of_isIdentifier hi),
      List.takeWhile_cons_of_neg hs, List.append_nil]
  have hr : ((chosen.toList ++ ' ' :: quoted path).dropWhile isNamePart).dropWhile isWhite =
      quoted path := by
    rw [List.dropWhile_append_of_pos (isNamePart_of_isIdentifier hi),
      List.dropWhile_cons_of_neg hs, List.dropWhile_cons_of_pos (by decide),
      dropWhile_isWhite_quoted]
  simp only [readImport?, hd, ht, hr]
  rw [if_pos hi, readPath?_quoted h, String.ofList_toList]
  rfl

/-- The line that a reference is printed on reads back as its import, whether its name is chosen,
left empty or left out. -/
theorem readImport?_importLine {reference : Reference} (h : reference.Usable) :
    readImport? (importLine reference) = some (.ofReference reference) := by
  have hq : IsQuotable reference.locator :=
    ⟨fun hm => (h.locator _ hm).1 rfl, fun hm => (h.locator _ hm).2.1 rfl⟩
  have hl : (importLine reference).toList =
      '\t' :: ((importPrefix reference).toList ++ quoted reference.locator) := by
    simp [importLine, quoted]
  rw [importPrefix_eq] at hl
  rw [Import.ofReference]
  cases hc : reference.chosenName with
  | none =>
    apply readImport?_path hq
    rw [hl, hc]
    rfl
  | some chosen =>
    have hi : isIdentifier chosen.toList = true := by
      have hn := h.name
      rwa [Reference.name, hc, Option.getD_some] at hn
    apply readImport?_chosen hq hi
    rw [hl, hc]
    simp

theorem importBlocks_append {front : List String} (h : "import (" ∉ front) (rest : List String) :
    importBlocks (front ++ rest) = importBlocks rest := by
  induction front with
  | nil => rfl
  | cons line front ih =>
    rw [List.mem_cons, not_or] at h
    rw [List.cons_append, importBlocks, if_neg (Ne.symm h.1), ih h.2]

theorem importBlocks_of_not_mem {texts : List String} (h : "import (" ∉ texts) :
    importBlocks texts = [] := by
  have ha := importBlocks_append h []
  rwa [List.append_nil] at ha

theorem ne_importLine (reference : Reference) :
    importLine reference ≠ "import (" ∧ importLine reference ≠ ")" := by
  constructor
  all_goals
    intro h
    rw [← String.toList_inj] at h
    simp [importLine] at h

theorem any_isSome_iff (types : List ScalarType) :
    types.any (·.reference.isSome) = true ↔ references types ≠ [] := by
  rw [references, ne_eq, List.filterMap_eq_nil_iff]
  simp [Option.isSome_iff_ne_none]

theorem importBlocks_importBlockLines {catalogue : Catalogue} {rest : List String}
    (h : "import (" ∉ rest) :
    importBlocks (importBlockLines catalogue ++ rest) =
      if references catalogue.types = [] then []
      else [catalogue.requiredReferences.map importLine] := by
  rw [importBlockLines]
  by_cases hr : references catalogue.types = []
  · rw [if_neg ((any_isSome_iff _).not.mpr (not_not.mpr hr)), if_pos hr, List.nil_append,
      importBlocks_of_not_mem h]
  · let imports := catalogue.requiredReferences.map importLine
    have hl : ∀ line ∈ imports, line ≠ "import (" ∧ line ≠ ")" := by
      intro line hm
      obtain ⟨reference, -, rfl⟩ := List.mem_map.mp hm
      exact ne_importLine reference
    have ho : "import (" ∉ imports ++ ")" :: rest := by
      rw [List.mem_append, List.mem_cons, not_or, not_or]
      exact ⟨fun hm => (hl _ hm).1 rfl, by decide, h⟩
    have ht : (imports ++ ")" :: rest).takeWhile (· != ")") = imports :=
      takeWhile_ne_append (fun hm => (hl _ hm).2 rfl) rest
    have he : ["", "import ("] ++ imports ++ [")"] ++ rest =
        [""] ++ "import (" :: (imports ++ ")" :: rest) := by simp
    rw [if_pos ((any_isSome_iff _).mpr hr), if_neg hr, he, importBlocks_append (by decide),
      importBlocks, if_pos rfl, ht, importBlocks_of_not_mem ho]

theorem ne_signature (kind : Kind) (form : Form) (name symbol : String) :
    signature kind form name symbol ≠ "import (" := by
  intro h
  rw [← String.toList_inj] at h
  simp [signature] at h

theorem not_mem_functions {catalogue : Catalogue} {kind : Kind} {functions : List String}
    (h : functions.filter (!isInner ·) = catalogue.types.flatMap (signatures kind)) :
    "import (" ∉ functions := by
  have hs : ∀ line ∈ catalogue.types.flatMap (signatures kind), line ≠ "import (" :=
    forall_mem_signatures (ne_signature kind)
  intro hm
  have ho : "import (" ∈ functions.filter (!isInner ·) := List.mem_filter.mpr ⟨hm, by decide⟩
  rw [h] at ho
  exact hs _ ho rfl

theorem importBlocks_documentText {config : Config} (h : config.IsSingleLine) (kind : Kind)
    (catalogue : Catalogue) :
    importBlocks (linesOf (documentText kind catalogue config)) =
      if references catalogue.types = [] then []
      else [catalogue.requiredReferences.map importLine] := by
  obtain ⟨functions, hl, ho⟩ := isLines_documentText h kind catalogue
  have hi : ∀ line ∈ markerLines config, line.toList.head? ≠ some 'i' := by simp [markerLines]
  have hm : "import (" ∉ markerLines config := fun hm => hi _ hm (by decide)
  have hf : "import (" ∉ functions ++ [""] := by
    rw [List.mem_append, not_or]
    exact ⟨not_mem_functions ho, by decide⟩
  rw [hl.linesOf_eq, List.append_assoc, List.append_assoc, importBlocks_append hm]
  exact importBlocks_importBlockLines hf

theorem readImports_documentText {config : Config} (h : config.IsSingleLine) (kind : Kind)
    (catalogue : Catalogue) :
    (importBlocks (linesOf (documentText kind catalogue config))).map (·.map readImport?) =
      if references catalogue.types = [] then []
      else [(catalogue.requiredReferences.map Import.ofReference).map some] := by
  have hr : (catalogue.requiredReferences.map importLine).map readImport? =
      (catalogue.requiredReferences.map Import.ofReference).map some := by
    rw [List.map_map, List.map_map]
    apply List.map_congr_left
    intro reference hm
    rw [Function.comp_apply, Function.comp_apply,
      readImport?_importLine (usable_of_mem_requiredReferences hm)]
  rw [importBlocks_documentText h]
  split
  · rfl
  · rw [List.map_singleton, hr]

/-- The imports make up the packages that the types are of: the name of a type's package is that of
exactly one import, which is of its path, and every import is the package of some type. -/
structure Resolves (types : List ScalarType) (imports : List Import) : Prop where
  distinct : (imports.map (·.name)).Nodup
  declared : ∀ type ∈ types, ∀ reference ∈ type.reference,
    (imports.map (·.name)).count reference.name = 1
  path : ∀ type ∈ types, ∀ reference ∈ type.reference, ∀ package ∈ imports,
    package.name = reference.name → package.path = reference.locator
  used : ∀ package ∈ imports, ∃ type ∈ types, ∃ reference ∈ type.reference,
    reference.name = package.name ∧ reference.locator = package.path

theorem resolves_requiredReferences (catalogue : Catalogue) :
    Resolves catalogue.types (catalogue.requiredReferences.map .ofReference) := by
  have hn : (catalogue.requiredReferences.map Import.ofReference).map (·.name) =
      catalogue.requiredReferences.map (·.name) := List.map_map
  have hm : ∀ type ∈ catalogue.types, ∀ reference ∈ type.reference,
      reference ∈ references catalogue.types :=
    fun type ht reference hr => List.mem_filterMap.mpr ⟨type, ht, hr⟩
  constructor
  case distinct =>
    rw [hn]
    exact names_requiredReferences_nodup catalogue
  case declared =>
    intro type ht reference hr
    obtain ⟨required, hq, hk⟩ := exists_requiredReference (hm type ht reference hr)
    have hname : required.name = reference.name := congrArg Prod.snd hk
    rw [hn]
    apply List.count_eq_one_of_mem (names_requiredReferences_nodup catalogue)
    exact List.mem_map.mpr ⟨required, hq, hname⟩
  case path =>
    intro type ht reference hr package hp hname
    obtain ⟨required, hq, rfl⟩ := List.mem_map.mp hp
    exact catalogue.compatible.packages required (mem_references_of_mem_requiredReferences hq)
      reference (hm type ht reference hr) hname
  case used =>
    intro package hp
    obtain ⟨required, hq, rfl⟩ := List.mem_map.mp hp
    obtain ⟨type, ht, hr⟩ := List.mem_filterMap.mp (mem_references_of_mem_requiredReferences hq)
    exact ⟨type, ht, required, hr, rfl, rfl⟩

/-- A document imports what its types need and nothing else: the first uses among the references of
its types, as they are spelled there. -/
theorem imports_of_documents {config : Config} (h : config.IsSingleLine) (kind : Kind)
    (catalogue : Catalogue) :
    ∃ templates text imports, GoTemplates.templates = .ok templates ∧
      (render templates kind catalogue config).text = .ok text ∧
      (importBlocks (linesOf text)).map (·.map readImport?) =
        (if references catalogue.types = [] then [] else [imports.map some]) ∧
      imports = catalogue.requiredReferences.map .ofReference ∧
      catalogue.requiredReferences = firstUses (references catalogue.types) ∧
      Resolves catalogue.types imports :=
  ⟨⟨trees⟩, _, _, templates_eq, text_render kind catalogue config,
    readImports_documentText h kind catalogue, rfl, requiredReferences_eq_firstUses catalogue,
    resolves_requiredReferences catalogue⟩

theorem imports_of_documents_time :
    let config : Config := { package := "import (", generator := "import (" }
    config.IsSingleLine ∧
    ∃ catalogue templates text imports,
      catalogue.types = [⟨"Time", some ⟨"time", none⟩⟩,
        ⟨"UUID", some ⟨"example.com/uuid", some "id"⟩⟩, ⟨"Month", some ⟨"time", some "time"⟩⟩,
        ⟨"Duration", some ⟨"time", some ""⟩⟩] ∧
      GoTemplates.templates = .ok templates ∧
      (render templates .toPointer catalogue config).text = .ok text ∧
      (importBlocks (linesOf text)).map (·.map readImport?) = [imports.map some] ∧
      imports = [⟨none, "time"⟩, ⟨some "id", "example.com/uuid"⟩] ∧
      Resolves catalogue.types imports := by
  intro config
  have hc : config.IsSingleLine := ⟨by decide, by decide⟩
  let catalogue : Catalogue := ⟨[⟨"Time", some ⟨"time", none⟩⟩,
    ⟨"UUID", some ⟨"example.com/uuid", some "id"⟩⟩, ⟨"Month", some ⟨"time", some "time"⟩⟩,
    ⟨"Duration", some ⟨"time", some ""⟩⟩], by decide +kernel⟩
  obtain ⟨templates, text, imports, ht, hr, hb, hi, hf, hn⟩ :=
    imports_of_documents hc .toPointer catalogue
  refine ⟨hc, catalogue, templates, text, imports, rfl, ht, hr, hb, ?_, hn⟩
  rw [hi, hf]
  decide +kernel

end PointerHelpers.Document
