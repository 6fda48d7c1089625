import PointerHelpers.Proofs.Catalogue.FunctionNames
import PointerHelpers.Proofs.Catalogue.RequiredReferences
import PointerHelpers.Proofs.Text.CapitalForms

namespace PointerHelpers.Catalogue

open Text

def importNames (catalogue : Catalogue) : List String := catalogue.requiredReferences.map (·.name)

def functionNames (catalogue : Catalogue) : List String :=
  catalogue.types.flatMap (·.functionNames)

theorem capitalize_of_mem_toPointerNames {type : ScalarType}
    (h : isIdentifier type.name.toList = true) {name : String} (hn : name ∈ type.toPointerNames) :
    capitalize name.toList = name.toList := by
  obtain ⟨letters, -, rfl⟩ : ∃ letters ∈ ["", "Slice", "Map"],
      name = type.displayName ++ letters := by
    simpa [ScalarType.toPointerNames] using hn
  rw [String.toList_append, toList_displayName, capitalize_append (capitalize_ne_nil h),
    capitalize_capitalize]

theorem capitalize_of_mem_functionNames {type : ScalarType}
    (h : isIdentifier type.name.toList = true) {functionName : String}
    (hf : functionName ∈ type.functionNames) :
    capitalize functionName.toList = functionName.toList := by
  rw [ScalarType.functionNames, List.mem_append] at hf
  obtain hf | hf := hf
  · exact capitalize_of_mem_toPointerNames h hf
  · have hto : capitalize "To".toList = "To".toList := by decide
    obtain ⟨name, -, rfl⟩ := List.mem_map.mp hf
    rw [String.toList_append, capitalize_append (by decide), hto]

/-- The names of the imports and of the functions are all different exactly when no reference with a
capitalized name has the name of a function. -/
theorem names_nodup_iff (catalogue : Catalogue) :
    (catalogue.importNames ++ catalogue.functionNames).Nodup ↔
      ∀ reference ∈ references catalogue.types,
        capitalize reference.name.toList = reference.name.toList →
          ∀ type ∈ catalogue.types, reference.name ∉ type.functionNames := by
  rw [List.nodup_append]
  constructor
  · rintro ⟨-, -, hdisjoint⟩ reference hr - type ht hf
    obtain ⟨required, hm, hk⟩ := exists_requiredReference hr
    have hn : required.name = reference.name := congrArg Prod.snd hk
    exact hdisjoint required.name (List.mem_map_of_mem hm) reference.name
      (List.mem_flatMap.mpr ⟨type, ht, hf⟩) hn
  · intro h
    refine ⟨names_requiredReferences_nodup catalogue, catalogue.compatible.functions,
      fun name hi functionName hf he => ?_⟩
    obtain ⟨reference, hm, rfl⟩ := List.mem_map.mp hi
    obtain ⟨type, ht, hf⟩ := List.mem_flatMap.mp hf
    rw [← he] at hf
    exact h reference (mem_references_of_mem_requiredReferences hm)
      (capitalize_of_mem_functionNames (catalogue.compatible.identifiers type ht) hf) type ht hf

/-- A type of a package `String` makes a catalogue with the type `string`, which has a function of
that name. -/
theorem not_forall_name_not_mem_functionNames :
    ¬ ∀ catalogue : Catalogue, ∀ reference ∈ catalogue.requiredReferences,
      ∀ type ∈ catalogue.types, reference.name ∉ type.functionNames := by
  intro h
  let time : ScalarType := ⟨"Time", some ⟨"example.com/String", none⟩⟩
  let catalogue : Catalogue := ⟨[.builtin "string", time], by decide +kernel⟩
  have hr : ⟨"example.com/String", none⟩ ∈ catalogue.requiredReferences := by decide +kernel
  exact h catalogue _ hr (.builtin "string") List.mem_cons_self (by decide +kernel)

end PointerHelpers.Catalogue
