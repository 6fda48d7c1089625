import Mathlib.Data.List.Perm.Basic
import PointerHelpers.Proofs.Document.DocumentLines

namespace PointerHelpers.Document

open Catalogue Text

def isDeclaration (line : String) : Bool := "func ".toList.isPrefixOf line.toList

def declarations (text : String) : List String := (linesOf text).filter isDeclaration

def declaredName (line : String) : String :=
  .ofList ((line.toList.takeWhile (· != '(')).drop "func ".length)

def declaredNames (text : String) : List String := (declarations text).map declaredName

theorem isDeclaration_signature (kind : Kind) (form : Form) (name symbol : String) :
    isDeclaration (signature kind form name symbol) = true := by
  simp [isDeclaration, signature]

theorem isDeclaration_of_isInner {line : String} (h : isInner line = true) :
    isDeclaration line = false := by
  rw [isInner] at h
  rw [isDeclaration]
  cases hl : line.toList with
  | nil => rfl
  | cons c cs =>
    rw [hl] at h
    have hc : c ≠ 'f' := by
      rintro rfl
      cases h
    simp [List.isPrefixOf, Ne.symm hc]

theorem filter_isDeclaration (texts : List String) :
    texts.filter isDeclaration = (texts.filter (!isInner ·)).filter isDeclaration := by
  rw [List.filter_filter]
  apply List.filter_congr
  intro line _
  cases hi : isInner line with
  | false => rw [Bool.not_false, Bool.and_true]
  | true => rw [isDeclaration_of_isInner hi, Bool.false_and]

theorem functionNames_take (type : ScalarType) :
    type.functionNames.take 3 = Form.all.map (functionName .toPointer · type.displayName) := by
  simp [ScalarType.functionNames, ScalarType.toPointerNames, Form.all, functionName, Form.suffix]

theorem functionNames_drop (type : ScalarType) :
    type.functionNames.drop 3 = Form.all.map (functionName .fromPointer · type.displayName) := by
  simp [ScalarType.functionNames, ScalarType.toPointerNames, ScalarType.fromPointerNames, Form.all,
    functionName, Form.suffix]

theorem declaredName_signature (kind : Kind) (form : Form) {name : String} (symbol : String)
    (h : '(' ∉ name.toList) :
    declaredName (signature kind form name symbol) = functionName kind form name := by
  have hs : ∃ rest, (signature kind form name symbol).toList =
      "func ".toList ++ (functionName kind form name).toList ++ '(' :: rest := by
    simp [signature]
  have hn : '(' ∉ "func ".toList ++ (functionName kind form name).toList := by
    cases kind <;> cases form <;> simp [functionName, Form.suffix, h]
  obtain ⟨rest, hr⟩ := hs
  rw [declaredName, hr, takeWhile_ne_append hn]
  exact String.ofList_toList

variable {config : Config}

theorem not_isDeclaration_importBlockLines (catalogue : Catalogue) :
    ∀ line ∈ importBlockLines catalogue, ¬ isDeclaration line = true := by
  apply forall_mem_importBlockLines
  · decide
  · intro reference _
    simp [isDeclaration, importLine, List.isPrefixOf]

theorem declarations_documentText (h : config.IsSingleLine) (kind : Kind) (catalogue : Catalogue) :
    declarations (documentText kind catalogue config) =
      catalogue.types.flatMap (signatures kind) := by
  obtain ⟨functions, hl, ho⟩ := isLines_documentText h kind catalogue
  have hm : (markerLines config).filter isDeclaration = [] := by
    simp [markerLines, isDeclaration]
  have hi : (importBlockLines catalogue).filter isDeclaration = [] :=
    List.filter_eq_nil_iff.mpr (not_isDeclaration_importBlockLines catalogue)
  have hs : ∀ line ∈ catalogue.types.flatMap (signatures kind), isDeclaration line = true :=
    forall_mem_signatures (isDeclaration_signature kind)
  rw [declarations, hl.linesOf_eq, List.filter_append, List.filter_append, List.filter_append, hm,
    hi, filter_isDeclaration functions, ho, List.filter_eq_self.mpr hs]
  simp [isDeclaration]

theorem declaredNames_documentText (h : config.IsSingleLine) (kind : Kind) (catalogue : Catalogue) :
    declaredNames (documentText kind catalogue config) =
      catalogue.types.flatMap fun type => Form.all.map (functionName kind · type.displayName) := by
  rw [declaredNames, declarations_documentText h, List.map_flatMap]
  apply List.flatMap_congr
  intro type hm
  rw [signatures, List.map_map]
  apply List.map_congr_left
  intro form _
  apply declaredName_signature
  exact not_mem_displayName (catalogue.compatible.identifiers type hm) (by decide)

/-- The two documents declare, type by type, the functions that the type is said to have, with its
symbol wherever a signature has a type, and no function of one name twice. -/
theorem declarations_of_documents (h : config.IsSingleLine) (catalogue : Catalogue) :
    ∃ templates toText fromText, GoTemplates.templates = .ok templates ∧
      (render templates .toPointer catalogue config).text = .ok toText ∧
      (render templates .fromPointer catalogue config).text = .ok fromText ∧
      declaredNames toText = catalogue.types.flatMap (·.functionNames.take 3) ∧
      declaredNames fromText = catalogue.types.flatMap (·.functionNames.drop 3) ∧
      declarations toText = catalogue.types.flatMap (signatures .toPointer) ∧
      declarations fromText = catalogue.types.flatMap (signatures .fromPointer) ∧
      (declaredNames toText ++ declaredNames fromText).Nodup := by
  have ht : declaredNames (documentText .toPointer catalogue config) =
      catalogue.types.flatMap (·.functionNames.take 3) := by
    simp only [functionNames_take]
    exact declaredNames_documentText h .toPointer catalogue
  have hf : declaredNames (documentText .fromPointer catalogue config) =
      catalogue.types.flatMap (·.functionNames.drop 3) := by
    simp only [functionNames_drop]
    exact declaredNames_documentText h .fromPointer catalogue
  have hn : (catalogue.types.flatMap (·.functionNames.take 3) ++
      catalogue.types.flatMap (·.functionNames.drop 3)).Nodup := by
    rw [(List.flatMap_append_perm catalogue.types _ _).nodup_iff]
    simp only [List.take_append_drop]
    exact catalogue.compatible.functions
  refine ⟨⟨trees⟩, _, _, templates_eq, text_render .toPointer catalogue config,
    text_render .fromPointer catalogue config, ht, hf,
    declarations_documentText h .toPointer catalogue,
    declarations_documentText h .fromPointer catalogue, ?_⟩
  rwa [ht, hf]

/-- The texts of the configuration look like lines of their own, but they do not begin any. -/
theorem declarations_of_documents_time :
    let config : Config := { package := "func Time(", generator := "func (" }
    config.IsSingleLine ∧
    ∃ catalogue templates toText fromText, catalogue.types = [⟨"Time", some ⟨"time", none⟩⟩] ∧
      GoTemplates.templates = .ok templates ∧
      (render templates .toPointer catalogue config).text = .ok toText ∧
      (render templates .fromPointer catalogue config).text = .ok fromText ∧
      declaredNames toText = ["Time", "TimeSlice", "TimeMap"] ∧
      declaredNames fromText = ["ToTime", "ToTimeSlice", "ToTimeMap"] ∧
      declarations toText = [r"func Time(v time.Time) *time.Time {",
        r"func TimeSlice(vs []time.Time) []*time.Time {",
        r"func TimeMap(vs map[string]time.Time) map[string]*time.Time {"] ∧
      declarations fromText = [r"func ToTime(p *time.Time) (v time.Time) {",
        r"func ToTimeSlice(vs []*time.Time) []time.Time {",
        r"func ToTimeMap(vs map[string]*time.Time) map[string]time.Time {"] ∧
      (declaredNames toText ++ declaredNames fromText).Nodup := by
  intro config
  have hc : config.IsSingleLine := ⟨by decide, by decide⟩
  let catalogue : Catalogue := ⟨[⟨"Time", some ⟨"time", none⟩⟩], by decide +kernel⟩
  obtain ⟨templates, toText, fromText, ht, hto, hfrom, hnt, hnf, hdt, hdf, hn⟩ :=
    declarations_of_documents hc catalogue
  refine ⟨hc, catalogue, templates, toText, fromText, rfl, ht, hto, hfrom, hnt.trans ?_,
    hnf.trans ?_, hdt.trans ?_, hdf.trans ?_, hn⟩
  all_goals decide +kernel

end PointerHelpers.Document
