import PointerHelpers.Proofs.Catalogue.RequiredReferences
import PointerHelpers.Proofs.Document.DocumentText
import PointerHelpers.Proofs.Text.Identifier
import PointerHelpers.Text.Split

namespace PointerHelpers

namespace Text

theorem takeWhile_ne_append {α : Type} [BEq α] [LawfulBEq α] {stop : α} {part : List α}
    (h : stop ∉ part) (rest : List α) :
    (part ++ stop :: rest).takeWhile (· != stop) = part := by
  have hp : ∀ c ∈ part, (c != stop) = true := by
    intro c hm
    rw [bne_iff_ne]
    rintro rfl
    exact h hm
  rw [List.takeWhile_append_of_pos hp, List.takeWhile_cons_of_neg (by simp), List.append_nil]

theorem splitOn_append {separator : Char} {part : List Char} (h : separator ∉ part)
    (rest : List Char) :
    splitOn separator (part ++ separator :: rest) = part :: splitOn separator rest := by
  induction part with
  | nil => simp [splitOn]
  | cons c part ih =>
    rw [List.mem_cons, not_or] at h
    rw [List.cons_append, splitOn, if_neg (Ne.symm h.1), ih h.2]

end Text

namespace Document

open Catalogue GoTemplates Text

def linesOf (text : String) : List String := (splitOn '\n' text.toList).map .ofList

structure IsLines (text : String) (texts : List String) : Prop where
  eq : text = lines texts
  newline : ∀ line ∈ texts, '\n' ∉ line.toList

theorem linesOf_line_append {line : String} (h : '\n' ∉ line.toList) (rest : String) :
    linesOf (line ++ "\n" ++ rest) = line :: linesOf rest := by
  have hs : (line ++ "\n" ++ rest).toList = line.toList ++ '\n' :: rest.toList := by simp
  rw [linesOf, hs, splitOn_append h, List.map_cons, String.ofList_toList, linesOf]

namespace IsLines

theorem append {text rest : String} {texts others : List String} (h : IsLines text texts)
    (hr : IsLines rest others) : IsLines (text ++ rest) (texts ++ others) := by
  constructor
  · rw [h.eq, hr.eq, lines_append]
  · exact List.forall_mem_append.mpr ⟨h.newline, hr.newline⟩

theorem nil : IsLines "" [] := ⟨rfl, by simp⟩

/-- What follows the last newline is read as one more line, which is empty. -/
theorem linesOf_eq {text : String} {texts : List String} (h : IsLines text texts) :
    linesOf text = texts ++ [""] := by
  obtain ⟨rfl, hn⟩ := h
  induction texts with
  | nil => rfl
  | cons line rest ih =>
    rw [List.forall_mem_cons] at hn
    rw [lines_cons, linesOf_line_append hn.1, ih hn.2, List.cons_append]

end IsLines

/-- The three functions of a type in a document: for a value, for a slice and for a map of them. -/
inductive Form where
  | single
  | slice
  | map

namespace Form

def all : List Form := [.single, .slice, .map]

def suffix : Form → String
  | .single => ""
  | .slice => "Slice"
  | .map => "Map"

def of (element : String) : Form → String
  | .single => element
  | .slice => "[]" ++ element
  | .map => "map[string]" ++ element

end Form

def function : Kind → Form → String → String → String
  | .toPointer, .single => toPointer
  | .toPointer, .slice => toPointerSlice
  | .toPointer, .map => toPointerMap
  | .fromPointer, .single => fromPointer
  | .fromPointer, .slice => fromPointerSlice
  | .fromPointer, .map => fromPointerMap

theorem functionsOf_eq (kind : Kind) : functionsOf kind = Form.all.map (function kind) := by
  cases kind <;> rfl

def functionName (kind : Kind) (form : Form) (name : String) : String :=
  match kind with
  | .toPointer => name ++ form.suffix
  | .fromPointer => "To" ++ (name ++ form.suffix)

def parameters : Kind → Form → String → String
  | .toPointer, .single, symbol => "v " ++ symbol
  | .toPointer, form, symbol => "vs " ++ form.of symbol
  | .fromPointer, .single, symbol => "p *" ++ symbol
  | .fromPointer, form, symbol => "vs " ++ form.of ("*" ++ symbol)

/-- A single value is returned under a name, so that it can be left at its zero value. -/
def results : Kind → Form → String → String
  | .toPointer, form, symbol => form.of ("*" ++ symbol)
  | .fromPointer, .single, symbol => "(v " ++ symbol ++ ")"
  | .fromPointer, form, symbol => form.of symbol

def signature (kind : Kind) (form : Form) (name symbol : String) : String :=
  "func " ++ functionName kind form name ++ "(" ++ parameters kind form symbol ++ ") " ++
    results kind form symbol ++ r" {"

def signatures (kind : Kind) (type : ScalarType) : List String :=
  Form.all.map fun form => signature kind form type.displayName type.symbol

theorem forall_mem_signatures {p : String → Prop} {kind : Kind} {types : List ScalarType}
    (h : ∀ form name symbol, p (signature kind form name symbol)) :
    ∀ line ∈ types.flatMap (signatures kind), p line := by
  intro line hm
  obtain ⟨type, -, ht⟩ := List.mem_flatMap.mp hm
  obtain ⟨form, -, rfl⟩ := List.mem_map.mp ht
  exact h form type.displayName type.symbol

/-- Comments, what is indented, closing brackets and empty lines. -/
def isInner (line : String) : Bool :=
  line.toList.head?.all fun c => c == '/' || c == '\t' || c == '}'

/-- The text consists of whole lines, and these are the ones that are not inner lines. -/
def Declares (text : String) (outer : List String) : Prop :=
  ∃ texts, IsLines text texts ∧ texts.filter (!isInner ·) = outer

namespace Declares

theorem append {text rest : String} {outer others : List String} (h : Declares text outer)
    (hr : Declares rest others) : Declares (text ++ rest) (outer ++ others) := by
  obtain ⟨texts, ht, rfl⟩ := h
  obtain ⟨more, hm, rfl⟩ := hr
  exact ⟨texts ++ more, ht.append hm, List.filter_append ..⟩

theorem join {α : Type} {text : α → String} {outer : α → List String} {items : List α}
    (h : ∀ item ∈ items, Declares (text item) (outer item)) :
    Declares (String.join (items.map text)) (items.flatMap outer) := by
  induction items with
  | nil => exact ⟨[], .nil, rfl⟩
  | cons item items ih =>
    rw [List.forall_mem_cons] at h
    rw [List.map_cons, String.join_cons, List.flatMap_cons]
    exact h.1.append (ih h.2)

end Declares

theorem declares_emptyLine : Declares (lines [""]) [] :=
  ⟨[""], ⟨rfl, by simp⟩, by simp [isInner]⟩

theorem declares_function (kind : Kind) (form : Form) {name symbol : String}
    (hn : '\n' ∉ name.toList) (hs : '\n' ∉ symbol.toList) :
    Declares (function kind form name symbol) [signature kind form name symbol] := by
  -- The lines are the ones that the definition of the function lists.
  suffices h : ∃ texts, function kind form name symbol = lines texts ∧
      (∀ line ∈ texts, '\n' ∉ line.toList) ∧
      (texts.filter (!isInner ·)).map String.toList =
        [(signature kind form name symbol).toList] by
    obtain ⟨texts, hl, hm, ho⟩ := h
    exact ⟨texts, ⟨hl, hm⟩, List.map_injective_iff.mpr (fun _ _ => String.toList_inj.mp) ho⟩
  cases kind <;> cases form
  all_goals
    refine ⟨_, congrArg lines rfl, ?_, ?_⟩
    · simp [hn, hs]
    · simp [signature, functionName, parameters, results, Form.of, Form.suffix, isInner]

theorem not_mem_displayName {type : ScalarType} (h : isIdentifier type.name.toList = true)
    {c : Char} (hc : c.toNat < 0x30) : c ∉ type.displayName.toList := by
  intro hm
  rw [ScalarType.displayName, String.toList_ofList] at hm
  exact absurd (le_toNat_of_mem_capitalize h c hm) (Nat.not_le_of_lt hc)

theorem newline_not_mem_symbol {type : ScalarType} (h : isIdentifier type.name.toList = true)
    (hr : ∀ reference ∈ type.reference, isIdentifier reference.name.toList = true) :
    '\n' ∉ type.symbol.toList := by
  have ht : '\n' ∉ type.name.toList := not_mem_of_isIdentifier h (by decide +kernel)
  rw [ScalarType.symbol]
  cases hq : type.reference with
  | none => exact ht
  | some reference =>
    have hn : '\n' ∉ reference.name.toList :=
      not_mem_of_isIdentifier (hr reference hq) (by decide +kernel)
    simp [hn, ht]

theorem declares_typeText (kind : Kind) (catalogue : Catalogue) {type : ScalarType}
    (h : type ∈ catalogue.types) : Declares (typeText kind type) (signatures kind type) := by
  have hi : isIdentifier type.name.toList = true := catalogue.compatible.identifiers type h
  have hr : ∀ reference ∈ type.reference, isIdentifier reference.name.toList = true :=
    fun reference hm =>
      (catalogue.compatible.usable reference (List.mem_filterMap.mpr ⟨type, h, hm⟩)).name
  have hf : ∀ form ∈ Form.all,
      Declares (lines [""] ++ function kind form type.displayName type.symbol)
        [signature kind form type.displayName type.symbol] := by
    intro form _
    apply declares_emptyLine.append
    exact declares_function kind form (not_mem_displayName hi (by decide))
      (newline_not_mem_symbol hi hr)
  have hall := Declares.join hf
  rw [← List.map_eq_flatMap] at hall
  rw [typeText, functionsOf_eq, List.map_map]
  exact hall

structure Config.IsSingleLine (config : Config) : Prop where
  package : '\n' ∉ config.package.toList
  generator : '\n' ∉ config.generator.toList

def markerLines (config : Config) : List String :=
  ["// Code generated by " ++ config.generator ++ ". DO NOT EDIT.", "",
    "package " ++ config.package]

def importBlockLines (catalogue : Catalogue) : List String :=
  if catalogue.types.any (·.reference.isSome) then
    ["", "import ("] ++ catalogue.requiredReferences.map importLine ++ [")"]
  else []

theorem forall_mem_importBlockLines {p : String → Prop} {catalogue : Catalogue}
    (hb : ∀ line ∈ ["", "import (", ")"], p line)
    (hi : ∀ reference ∈ catalogue.requiredReferences, p (importLine reference)) :
    ∀ line ∈ importBlockLines catalogue, p line := by
  intro line hm
  rw [importBlockLines] at hm
  split at hm
  · simp only [List.mem_append, List.mem_map] at hm
    obtain (hm | ⟨reference, hr, rfl⟩) | hm := hm
    · exact hb line (List.mem_append_left [")"] hm)
    · exact hi reference hr
    · exact hb line (List.mem_append_right ["", "import ("] hm)
  · cases hm

theorem newline_not_mem_importLine {reference : Reference} (h : reference.Usable) :
    '\n' ∉ (importLine reference).toList := by
  have hl : '\n' ∉ reference.locator.toList := by
    intro hm
    exact absurd (h.locator _ hm).2.2.1 (by decide)
  have hp : '\n' ∉ (importPrefix reference).toList := by
    have hn : '\n' ∉ reference.name.toList := not_mem_of_isIdentifier h.name (by decide +kernel)
    rw [importPrefix_eq]
    cases hc : reference.chosenName with
    | none => simp
    | some chosen =>
      rw [Reference.name, hc, Option.getD_some] at hn
      simp [hn]
  simp [importLine, hl, hp]

theorem isLines_importBlock (catalogue : Catalogue) :
    IsLines (importBlock catalogue) (importBlockLines catalogue) := by
  constructor
  · rw [importBlock, importBlockLines]
    split <;> rfl
  · apply forall_mem_importBlockLines
    · simp
    · intro reference hm
      exact newline_not_mem_importLine (usable_of_mem_requiredReferences hm)

/-- Run over the types: beside the header, the lines of a document that are not inner lines are the
signatures of its functions. -/
theorem isLines_documentText {config : Config} (h : config.IsSingleLine) (kind : Kind)
    (catalogue : Catalogue) :
    ∃ functions, IsLines (documentText kind catalogue config)
        (markerLines config ++ importBlockLines catalogue ++ functions) ∧
      functions.filter (!isInner ·) = catalogue.types.flatMap (signatures kind) := by
  have hm : IsLines (lines (markerLines config)) (markerLines config) :=
    ⟨rfl, by simp [markerLines, h.package, h.generator]⟩
  have ht : Declares (String.join (catalogue.types.map (typeText kind)))
      (catalogue.types.flatMap (signatures kind)) :=
    Declares.join fun type hm => declares_typeText kind catalogue hm
  obtain ⟨functions, hf, ho⟩ := ht
  exact ⟨functions, (hm.append (isLines_importBlock catalogue)).append hf, ho⟩

end Document

end PointerHelpers
