import PointerHelpers.Proofs.Catalogue.Acceptance
import PointerHelpers.Proofs.Text.Capitals

namespace PointerHelpers.Catalogue

open Text

theorem toList_displayName (type : ScalarType) :
    type.displayName.toList = capitalize type.name.toList := String.toList_ofList

theorem isIdentifier_eq_of_mem_toPointerNames {type : ScalarType}
    (h : isIdentifier type.name.toList = true) {name : String} (hn : name ∈ type.toPointerNames) :
    isIdentifier name.toList = (capitalize type.name.toList).all isNamePart ∧
      name.toList.all isNamePart = (capitalize type.name.toList).all isNamePart := by
  have hparts : ∀ letters ∈ ["", "Slice", "Map"], letters.toList.all isNamePart = true := by
    decide
  obtain ⟨letters, hl, rfl⟩ : ∃ letters ∈ ["", "Slice", "Map"],
      name = type.displayName ++ letters := by
    simpa [ScalarType.toPointerNames] using hn
  rw [String.toList_append, toList_displayName, isIdentifier_append (capitalize_ne_nil h),
    isIdentifier_capitalize h, List.all_append, hparts letters hl, Bool.and_true]
  exact ⟨rfl, rfl⟩

theorem isIdentifier_eq_of_mem_functionNames {type : ScalarType}
    (h : isIdentifier type.name.toList = true) {functionName : String}
    (hf : functionName ∈ type.functionNames) :
    isIdentifier functionName.toList = (capitalize type.name.toList).all isNamePart := by
  rw [ScalarType.functionNames, List.mem_append] at hf
  obtain hf | hf := hf
  · exact (isIdentifier_eq_of_mem_toPointerNames h hf).1
  · have hto : isIdentifier "To".toList = true := by decide
    obtain ⟨name, hn, rfl⟩ := List.mem_map.mp hf
    rw [String.toList_append, isIdentifier_append (by decide), hto, Bool.true_and]
    exact (isIdentifier_eq_of_mem_toPointerNames h hn).2

/-- The functions of a type in a catalogue have identifiers for names exactly when the name of the
type does not begin with a letter whose capital takes a combining mark. -/
theorem isIdentifier_functionName_iff (catalogue : Catalogue) {type : ScalarType}
    (ht : type ∈ catalogue.types) {functionName : String} (hf : functionName ∈ type.functionNames) :
    isIdentifier functionName.toList = true ↔
      ∀ first ∈ type.name.toList.head?, first.toNat ∉ markedCapitals := by
  have hi : isIdentifier type.name.toList = true := catalogue.compatible.identifiers type ht
  rw [isIdentifier_eq_of_mem_functionNames hi hf, all_isNamePart_capitalize_iff hi]

theorem isIdentifier_functionName_iff_sharp :
    let type := ScalarType.builtin "\u00DFet\u00E1"
    let catalogue : Catalogue := ⟨[type], by decide +kernel⟩
    type ∈ catalogue.types ∧ "ToSSet\u00E1Map" ∈ type.functionNames ∧
    isIdentifier "ToSSet\u00E1Map".toList = true := by
  intro type catalogue
  have ht : type ∈ catalogue.types := List.mem_singleton_self _
  have hf : "ToSSet\u00E1Map" ∈ type.functionNames := by decide +kernel
  have hh : type.name.toList.head? = some '\u00DF' := by decide +kernel
  refine ⟨ht, hf, (isIdentifier_functionName_iff catalogue ht hf).mpr ?_⟩
  rw [hh]
  rintro first ⟨rfl⟩
  decide

/-- The capital of a j with a caron is a J and a combining caron, so that a type that begins with it
is in a catalogue, but gives its functions names that are no identifiers. -/
theorem not_forall_isIdentifier_functionName :
    ¬ ∀ catalogue : Catalogue, ∀ type ∈ catalogue.types, ∀ functionName ∈ type.functionNames,
      isIdentifier functionName.toList = true := by
  intro h
  let type := ScalarType.builtin "\u01F0"
  have hs : firstFault? .empty [type] = none := by decide +kernel
  have hf : "J\u030C" ∈ type.functionNames := by decide +kernel
  have hn : isIdentifier "J\u030C".toList = false := by decide +kernel
  have hi := h ⟨[type], hs⟩ type (List.mem_singleton_self _) _ hf
  cases hn.symm.trans hi

end PointerHelpers.Catalogue
