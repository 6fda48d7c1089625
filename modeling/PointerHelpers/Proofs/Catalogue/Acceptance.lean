import Mathlib.Data.List.Basic
import Mathlib.Data.List.Nodup
import PointerHelpers.Catalogue.Basic

namespace PointerHelpers.Catalogue

open Text

theorem ScalarType.functionNames_congr {type other : ScalarType} (h : type.name = other.name) :
    type.functionNames = other.functionNames := by
  simp only [functionNames, fromPointerNames, toPointerNames, displayName, h]

def references (types : List ScalarType) : List Reference := types.filterMap (·.reference)

structure Reference.Usable (reference : Reference) : Prop where
  locator : ∀ c ∈ reference.locator.toList,
    c ≠ '"' ∧ c ≠ '\\' ∧ isWhite c = false ∧ isControl c = false
  name : isIdentifier reference.name.toList = true
  ne_underscore : reference.name ≠ "_"

/-- Types that can be declared in one package: all their names are usable, no two of their functions
have one name, and no two of their imports have one name for different paths. -/
structure Compatible (types : List ScalarType) : Prop where
  identifiers : ∀ type ∈ types, isIdentifier type.name.toList = true
  functions : (types.flatMap (·.functionNames)).Nodup
  usable : ∀ reference ∈ references types, reference.Usable
  packages : ∀ reference ∈ references types, ∀ other ∈ references types,
    reference.name = other.name → reference.locator = other.locator

namespace Compatible

theorem nil : Compatible [] := by
  constructor <;> simp [references]

theorem of_append {types rest : List ScalarType} (h : Compatible (types ++ rest)) :
    Compatible types := by
  have hr (reference : Reference) (hm : reference ∈ references types) :
      reference ∈ references (types ++ rest) := by
    rw [references, List.filterMap_append]
    exact List.mem_append_left _ hm
  constructor
  · exact fun type hm => h.identifiers type (List.mem_append_left _ hm)
  · have hn := h.functions
    rw [List.flatMap_append] at hn
    exact hn.of_append_left
  · exact fun reference hm => h.usable reference (hr reference hm)
  · exact fun reference hm other ho => h.packages reference (hr reference hm) other (hr other ho)

theorem perm {types other : List ScalarType} (hp : types.Perm other) (h : Compatible types) :
    Compatible other := by
  have hr (reference : Reference) : reference ∈ references other ↔ reference ∈ references types :=
    (hp.filterMap _).symm.mem_iff
  constructor
  · exact fun type hm => h.identifiers type (hp.mem_iff.mpr hm)
  · exact (hp.flatMap_right _).nodup_iff.mp h.functions
  · exact fun reference hm => h.usable reference ((hr reference).mp hm)
  · exact fun reference hm other ho =>
      h.packages reference ((hr reference).mp hm) other ((hr other).mp ho)

theorem append_singleton_iff {earlier : List ScalarType} (hc : Compatible earlier)
    (type : ScalarType) :
    Compatible (earlier ++ [type]) ↔
      isIdentifier type.name.toList = true ∧
      (∀ name ∈ earlier.flatMap (·.functionNames), name ∉ type.functionNames) ∧
      ∀ reference ∈ type.reference, reference.Usable ∧
        ∀ other ∈ references earlier, other.name = reference.name →
          other.locator = reference.locator := by
  have hr (reference : Reference) : reference ∈ references (earlier ++ [type]) ↔
      reference ∈ references earlier ∨ reference ∈ type.reference := by
    cases h : type.reference <;> simp [references, List.filterMap_append, h, eq_comm]
  constructor
  · intro h
    have hf := h.functions
    rw [List.flatMap_append, List.nodup_append] at hf
    refine ⟨h.identifiers type (by simp), fun name hm ht => ?_, fun reference hm => ⟨?_, ?_⟩⟩
    · exact hf.2.2 name hm name (by simpa using ht) rfl
    · exact h.usable reference ((hr reference).mpr (.inr hm))
    · exact fun other ho => h.packages other ((hr other).mpr (.inl ho)) reference
        ((hr reference).mpr (.inr hm))
  · rintro ⟨hi, hf, hp⟩
    constructor
    · intro other hm
      obtain hm | hm := List.mem_append.mp hm
      · exact hc.identifiers other hm
      · rwa [List.mem_singleton.mp hm]
    · rw [List.flatMap_append, List.nodup_append]
      refine ⟨hc.functions, by simpa using type.functionNames_nodup, ?_⟩
      intro name hm other ho he
      exact hf name hm (by simpa [he] using ho)
    · intro reference hm
      obtain hm | hm := (hr reference).mp hm
      · exact hc.usable reference hm
      · exact (hp reference hm).1
    · intro reference hm other ho hn
      -- Either of the two references may be the one of the new type.
      obtain hm | hm := (hr reference).mp hm <;> obtain ho | ho := (hr other).mp ho
      · exact hc.packages reference hm other ho hn
      · exact (hp other ho).2 reference hm hn
      · exact ((hp reference hm).2 other ho hn.symm).symm
      · rw [Option.mem_unique hm ho]

end Compatible

theorem types_addAll (earlier : List ScalarType) (name : String) :
    (Registry.empty.addAll earlier).types.contains name = true ↔
      ∃ owner ∈ earlier, owner.name = name := by
  rw [Registry.contains_types_addAll]
  simp [Registry.empty]

theorem functions_addAll (earlier : List ScalarType) (name : String) :
    (Registry.empty.addAll earlier).functions[name]? =
      (earlier.find? (·.functionNames.contains name)).map (·.name) := by
  rw [Registry.getElem?_functions_addAll]
  simp [Registry.empty]

theorem packages_addAll (earlier : List ScalarType) (name : String) :
    (Registry.empty.addAll earlier).packages[name]? =
      ((references earlier).find? (·.name == name)).map (·.locator) := by
  rw [Registry.getElem?_packages_addAll]
  simp [Registry.empty, references]

theorem collision?_eq_none_iff (earlier : List ScalarType) (type : ScalarType) :
    collision? (Registry.empty.addAll earlier) type = none ↔
      ∀ name ∈ earlier.flatMap (·.functionNames), name ∉ type.functionNames := by
  simp only [collision?, functions_addAll, List.findSome?_eq_none_iff, Option.map_eq_none_iff,
    List.find?_eq_none, List.contains_iff_mem, List.mem_flatMap]
  constructor
  · rintro h name ⟨owner, ho, hn⟩ hm
    exact h name hm owner ho hn
  · intro h name hm owner ho hn
    exact h name ⟨owner, ho, hn⟩ hm

/-- The registry keeps the first path of a name, which stands for all of them as long as they agree. -/
theorem conflict?_eq_none_iff {earlier : List ScalarType} (hc : Compatible earlier)
    (reference : Reference) :
    conflict? (Registry.empty.addAll earlier) reference = none ↔
      ∀ other ∈ references earlier, other.name = reference.name →
        other.locator = reference.locator := by
  simp only [conflict?, packages_addAll]
  cases hf : (references earlier).find? (·.name == reference.name) with
  | none =>
    rw [List.find?_eq_none] at hf
    simp only [Option.map_none, true_iff]
    intro other ho hn
    exact absurd (beq_iff_eq.mpr hn) (hf other ho)
  | some first =>
    have hm : first ∈ references earlier := List.mem_of_find?_eq_some hf
    have hn : first.name = reference.name := by simpa using List.find?_some hf
    simp only [Option.map_some, ite_eq_left_iff, reduceCtorEq, imp_false, Decidable.not_not]
    constructor
    · intro hl other ho hon
      rw [hc.packages other ho first hm (hon.trans hn.symm), hl]
    · exact fun h => h first hm hn

theorem isForbiddenInLocator_eq_false_iff (c : Char) :
    isForbiddenInLocator c = false ↔
      c ≠ '"' ∧ c ≠ '\\' ∧ isWhite c = false ∧ isControl c = false := by
  simp [isForbiddenInLocator, and_assoc]

theorem referenceFault?_eq_none_iff {earlier : List ScalarType} (hc : Compatible earlier)
    (type : ScalarType) (reference : Reference) :
    referenceFault? (Registry.empty.addAll earlier) type reference = none ↔
      reference.Usable ∧ ∀ other ∈ references earlier, other.name = reference.name →
        other.locator = reference.locator := by
  rw [← conflict?_eq_none_iff hc, referenceFault?]
  by_cases hl : reference.locator.toList.any isForbiddenInLocator = true
  · rw [if_pos hl]
    refine iff_of_false (by simp) fun h => ?_
    obtain ⟨c, hm, hb⟩ := List.any_eq_true.mp hl
    rw [(isForbiddenInLocator_eq_false_iff c).mpr (h.1.locator c hm)] at hb
    cases hb
  by_cases hn : isIdentifier reference.name.toList = true ∧ reference.name ≠ "_"
  · have hne : reference.name ≠ "" := by
      intro he
      simp [he, isIdentifier] at hn
    have hu : reference.Usable := by
      refine ⟨fun c hm => ?_, hn.1, hn.2⟩
      rw [← isForbiddenInLocator_eq_false_iff, Bool.eq_false_iff]
      exact fun hb => hl (List.any_eq_true.mpr ⟨c, hm, hb⟩)
    simp [hl, hne, hn, hu]
  · have hu : ¬ reference.Usable := fun h => hn ⟨h.name, h.ne_underscore⟩
    have hi : reference.name = "_" ∨ isIdentifier reference.name.toList = false := by
      by_contra hb
      rw [not_or, Bool.not_eq_false] at hb
      exact hn ⟨hb.2, hb.1⟩
    rw [if_neg hl]
    split <;> simp [hu, hi]

theorem fault?_eq_none_iff {earlier : List ScalarType} (hc : Compatible earlier)
    (type : ScalarType) :
    fault? (Registry.empty.addAll earlier) type = none ↔ Compatible (earlier ++ [type]) := by
  have hb : type.reference.bind (referenceFault? (Registry.empty.addAll earlier) type) = none ↔
      ∀ reference ∈ type.reference, reference.Usable ∧
        ∀ other ∈ references earlier, other.name = reference.name →
          other.locator = reference.locator := by
    rw [Option.bind_eq_none_iff]
    exact forall₂_congr fun reference _ => referenceFault?_eq_none_iff hc type reference
  rw [hc.append_singleton_iff, ← hb, ← collision?_eq_none_iff, fault?]
  by_cases hi : isIdentifier type.name.toList = true
  · have hne : type.name ≠ "" := by
      intro he
      simp [he, isIdentifier] at hi
    -- Types of one name have the same functions, so that a name which is taken collides anyway.
    by_cases hd : (Registry.empty.addAll earlier).types.contains type.name = true
    · have hcol : ¬ collision? (Registry.empty.addAll earlier) type = none := by
        obtain ⟨owner, hm, hn⟩ := (types_addAll earlier type.name).mp hd
        rw [collision?_eq_none_iff, ScalarType.functionNames_congr hn.symm]
        intro h
        have hf : owner.displayName ∈ owner.functionNames := by
          simp [ScalarType.functionNames, ScalarType.toPointerNames]
        exact h _ (List.mem_flatMap.mpr ⟨owner, hm, hf⟩) hf
      simp [hne, hi, hd, hcol]
    · simp [hne, hi, hd]
  · split <;> simp [hi]

/-- Run: the check of the types that follow compatible ones decides whether all are compatible. -/
theorem firstFault?_eq_none_iff {earlier : List ScalarType} (hc : Compatible earlier)
    (types : List ScalarType) :
    firstFault? (Registry.empty.addAll earlier) types = none ↔ Compatible (earlier ++ types) := by
  induction types generalizing earlier with
  | nil => simpa [firstFault?] using hc
  | cons type rest ih =>
    have hadd : (Registry.empty.addAll earlier).add type =
        Registry.empty.addAll (earlier ++ [type]) := by
      rw [Registry.addAll, Registry.addAll, List.foldl_concat]
    have happ : earlier ++ type :: rest = earlier ++ [type] ++ rest := by simp
    rw [firstFault?, Option.or_eq_none_iff, fault?_eq_none_iff hc, hadd, happ]
    constructor
    · rintro ⟨hs, hr⟩
      exact (ih hs).mp hr
    · intro h
      exact ⟨h.of_append, (ih h.of_append).mpr h⟩

theorem compatible (catalogue : Catalogue) : Compatible catalogue.types :=
  (firstFault?_eq_none_iff Compatible.nil catalogue.types).mp catalogue.sound

theorem exists_ofTypes_iff (types : List ScalarType) :
    (∃ catalogue, ofTypes types = .ok catalogue) ↔ Compatible types := by
  have hs : firstFault? .empty types = none ↔ Compatible types :=
    firstFault?_eq_none_iff Compatible.nil types
  rw [← hs, ofTypes]
  split <;> simp [*]

theorem types_of_ofTypes {types : List ScalarType} {catalogue : Catalogue}
    (h : ofTypes types = .ok catalogue) : catalogue.types = types := by
  rw [ofTypes] at h
  split at h
  · cases h
    rfl
  · cases h

theorem ofTypes_types (catalogue : Catalogue) : ofTypes catalogue.types = .ok catalogue := by
  obtain ⟨types, sound⟩ := catalogue
  rw [ofTypes]
  split
  · rfl
  · rename_i hf
    cases sound.symm.trans hf

/-- A list of types is a catalogue exactly when its types are compatible. The catalogue holds the
types as they were given, and their order plays no part in the acceptance. -/
theorem ofTypes_accepts_iff (types : List ScalarType) :
    ((∃ catalogue, ofTypes types = .ok catalogue) ↔ Compatible types) ∧
    (∀ catalogue, ofTypes types = .ok catalogue → catalogue.types = types) ∧
    ∀ other, types.Perm other →
      ((∃ catalogue, ofTypes types = .ok catalogue) ↔
        ∃ catalogue, ofTypes other = .ok catalogue) := by
  refine ⟨exists_ofTypes_iff types, fun _ h => types_of_ofTypes h, fun other hp => ?_⟩
  rw [exists_ofTypes_iff, exists_ofTypes_iff]
  exact ⟨fun h => h.perm hp, fun h => h.perm hp.symm⟩

end PointerHelpers.Catalogue
