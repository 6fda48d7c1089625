import Mathlib.Data.List.Forall2
import PointerHelpers.Document.Generation
import PointerHelpers.Proofs.Catalogue.Blame
import PointerHelpers.Proofs.Template.RelatedRenderings

namespace PointerHelpers.Catalogue

open Template

/-- References that differ at most in whether an empty local name is set or none is. -/
inductive Reference.SameUpToEmpty : Reference → Reference → Prop
  | same (reference : Reference) : SameUpToEmpty reference reference
  | set (locator : String) : SameUpToEmpty ⟨locator, none⟩ ⟨locator, some ""⟩
  | unset (locator : String) : SameUpToEmpty ⟨locator, some ""⟩ ⟨locator, none⟩

structure ScalarType.SameUpToEmpty (type other : ScalarType) : Prop where
  name : type.name = other.name
  reference : Option.Rel Reference.SameUpToEmpty type.reference other.reference

namespace Reference.SameUpToEmpty

variable {reference other : Reference}

theorem locator_eq (h : reference.SameUpToEmpty other) : reference.locator = other.locator := by
  cases h <;> rfl

theorem chosenName_eq (h : reference.SameUpToEmpty other) :
    reference.chosenName = other.chosenName := by
  cases h <;> rfl

theorem name_eq (h : reference.SameUpToEmpty other) : reference.name = other.name := by
  rw [Reference.name, Reference.name, h.chosenName_eq, h.locator_eq]

theorem key_eq (h : reference.SameUpToEmpty other) : reference.key = other.key := by
  rw [Reference.key, Reference.key, h.locator_eq, h.name_eq]

end Reference.SameUpToEmpty

namespace ScalarType.SameUpToEmpty

variable {type other : ScalarType}

theorem displayName_eq (h : type.SameUpToEmpty other) : type.displayName = other.displayName := by
  rw [displayName, displayName, h.name]

theorem symbol_eq (h : type.SameUpToEmpty other) : type.symbol = other.symbol := by
  rw [symbol, symbol, h.name]
  obtain ⟨hr, hr'⟩ | ⟨reference, reference', hr, hr', hsame⟩ := none_or_some_of_rel h.reference
  · rw [hr, hr']
  · rw [hr, hr']
    simp only [hsame.name_eq]

theorem fault?_eq (h : type.SameUpToEmpty other) (earlier : Registry) :
    fault? earlier type = fault? earlier other := by
  have hc : collision? earlier type = collision? earlier other := by
    rw [collision?, collision?, functionNames_congr h.name, h.name]
  have hr : type.reference.bind (referenceFault? earlier type) =
      other.reference.bind (referenceFault? earlier other) := by
    obtain ⟨hr, hr'⟩ | ⟨reference, reference', hr, hr', hsame⟩ := none_or_some_of_rel h.reference
    · rw [hr, hr', Option.bind_none, Option.bind_none]
    · rw [hr, hr', Option.bind_some, Option.bind_some, referenceFault?, referenceFault?, conflict?,
        conflict?, hsame.locator_eq, hsame.name_eq, h.name]
  rw [fault?, fault?, hc, hr, h.name]

theorem add_eq (h : type.SameUpToEmpty other) (earlier : Registry) :
    earlier.add type = earlier.add other := by
  rw [Registry.add, Registry.add, functionNames_congr h.name, h.name]
  obtain ⟨hr, hr'⟩ | ⟨reference, reference', hr, hr', hsame⟩ := none_or_some_of_rel h.reference
  · rw [hr, hr']
  · rw [hr, hr']
    simp only [hsame.name_eq, hsame.locator_eq]

end ScalarType.SameUpToEmpty

variable {types types' : List ScalarType}

/-- Run: both checks go on with the same registry, so that they stop at the same place. -/
theorem firstFault?_eq (h : List.Forall₂ ScalarType.SameUpToEmpty types types')
    (earlier : Registry) : firstFault? earlier types = firstFault? earlier types' := by
  induction h generalizing earlier with
  | nil => rfl
  | cons hfirst _ ih => rw [firstFault?, firstFault?, hfirst.fault?_eq, hfirst.add_eq, ih]

theorem forall₂_distinctImports {references references' : List Reference}
    (h : List.Forall₂ Reference.SameUpToEmpty references references')
    (seen : Std.TreeSet (String × String) lexOrd.compare) :
    List.Forall₂ Reference.SameUpToEmpty (distinctImports seen references)
      (distinctImports seen references') := by
  induction h generalizing seen with
  | nil => exact .nil
  | cons hfirst _ ih =>
    rw [distinctImports, distinctImports, hfirst.key_eq]
    split
    · exact ih seen
    · exact .cons hfirst (ih _)

theorem forall₂_requiredReferences {catalogue catalogue' : Catalogue}
    (h : List.Forall₂ ScalarType.SameUpToEmpty catalogue.types catalogue'.types) :
    List.Forall₂ Reference.SameUpToEmpty catalogue.requiredReferences
      catalogue'.requiredReferences :=
  forall₂_distinctImports (List.rel_filterMap (fun _ _ ht => ht.reference) h) ∅

theorem map_eq_of_forall₂ {α β : Type} {related : α → α → Prop} {items items' : List α}
    {f : α → β} (hf : ∀ item item', related item item' → f item = f item')
    (h : List.Forall₂ related items items') : items.map f = items'.map f := by
  rw [← List.forall₂_eq_eq_eq, List.forall₂_map_left_iff, List.forall₂_map_right_iff]
  exact h.imp hf

end PointerHelpers.Catalogue

namespace PointerHelpers.Document

open Catalogue Template

theorem importScope_eq {reference other : Reference} (h : reference.SameUpToEmpty other) :
    importScope reference = importScope other := by
  rw [importScope, importScope, h.locator_eq, h.chosenName_eq, h.name_eq]

theorem typeScope_eq {type other : ScalarType} (h : type.SameUpToEmpty other) :
    typeScope type = typeScope other := by
  rw [typeScope, typeScope, h.name, h.displayName_eq, h.symbol_eq]

theorem documentScope_eq {catalogue catalogue' : Catalogue}
    (h : List.Forall₂ ScalarType.SameUpToEmpty catalogue.types catalogue'.types)
    (config : Config) : documentScope catalogue config = documentScope catalogue' config := by
  have himports : catalogue.requiredReferences.map importScope =
      catalogue'.requiredReferences.map importScope :=
    map_eq_of_forall₂ (fun _ _ hr => importScope_eq hr) (forall₂_requiredReferences h)
  have htypes : catalogue.types.map typeScope = catalogue'.types.map typeScope :=
    map_eq_of_forall₂ (fun _ _ ht => typeScope_eq ht) h
  rw [documentScope, documentScope, himports, htypes]

/-- Types that differ at most in whether an empty local name is set or none is make a catalogue
together or are refused for the same fault. The catalogues show the same names and symbols and need
imports of the same paths and names, and every template gives the same documents for them. -/
theorem ofTypes_sameUpToEmpty {types types' : List ScalarType}
    (h : List.Forall₂ ScalarType.SameUpToEmpty types types') :
    ((∃ catalogue, ofTypes types = .ok catalogue) ↔ ∃ catalogue, ofTypes types' = .ok catalogue) ∧
    (∀ error, ofTypes types = .error error ↔ ofTypes types' = .error error) ∧
    ∀ catalogue catalogue', ofTypes types = .ok catalogue → ofTypes types' = .ok catalogue' →
      catalogue.types.map (·.displayName) = catalogue'.types.map (·.displayName) ∧
      catalogue.types.map (·.symbol) = catalogue'.types.map (·.symbol) ∧
      catalogue.requiredReferences.map (·.locator) =
        catalogue'.requiredReferences.map (·.locator) ∧
      catalogue.requiredReferences.map (·.name) = catalogue'.requiredReferences.map (·.name) ∧
      ∀ templates kind config,
        render templates kind catalogue config = render templates kind catalogue' config := by
  have hfault : firstFault? .empty types = firstFault? .empty types' := firstFault?_eq h .empty
  refine ⟨?_, fun error => ?_, fun catalogue catalogue' hc hc' => ?_⟩
  · rw [exists_ofTypes_iff, exists_ofTypes_iff, ← List.nil_append types, ← List.nil_append types',
      ← firstFault?_eq_none_iff Compatible.nil, ← firstFault?_eq_none_iff Compatible.nil]
    exact iff_of_eq (congrArg (· = none) hfault)
  · rw [ofTypes_eq_error_iff, ofTypes_eq_error_iff, hfault]
  · have htypes : List.Forall₂ ScalarType.SameUpToEmpty catalogue.types catalogue'.types := by
      rwa [types_of_ofTypes hc, types_of_ofTypes hc']
    have himports := forall₂_requiredReferences htypes
    refine ⟨map_eq_of_forall₂ (fun _ _ ht => ht.displayName_eq) htypes,
      map_eq_of_forall₂ (fun _ _ ht => ht.symbol_eq) htypes,
      map_eq_of_forall₂ (fun _ _ hr => hr.locator_eq) himports,
      map_eq_of_forall₂ (fun _ _ hr => hr.name_eq) himports, fun templates kind config => ?_⟩
    rw [render, render, documentScope_eq htypes]

theorem ofTypes_sameUpToEmpty_time :
    let time (name : String) (localName : Option String) : ScalarType :=
      ⟨name, some ⟨"time", localName⟩⟩
    let types := [time "Time" none, .builtin "int", time "Month" (some "")]
    let types' := [time "Time" (some ""), .builtin "int", time "Month" none]
    List.Forall₂ ScalarType.SameUpToEmpty types types' ∧
    ∃ catalogue catalogue', ofTypes types = .ok catalogue ∧ ofTypes types' = .ok catalogue' ∧
      catalogue.requiredReferences = [⟨"time", none⟩] ∧
      catalogue'.requiredReferences = [⟨"time", some ""⟩] ∧
      ∀ templates kind config,
        render templates kind catalogue config = render templates kind catalogue' config := by
  intro time types types'
  have h : List.Forall₂ ScalarType.SameUpToEmpty types types' :=
    .cons ⟨rfl, .some (.set "time")⟩
      (.cons ⟨rfl, .none⟩ (.cons ⟨rfl, .some (.unset "time")⟩ .nil))
  let catalogue : Catalogue := ⟨types, by decide +kernel⟩
  let catalogue' : Catalogue := ⟨types', by decide +kernel⟩
  have hok : ofTypes types = .ok catalogue := ofTypes_types catalogue
  have hok' : ofTypes types' = .ok catalogue' := ofTypes_types catalogue'
  obtain ⟨-, -, hagree⟩ := ofTypes_sameUpToEmpty h
  obtain ⟨-, -, -, -, hrender⟩ := hagree catalogue catalogue' hok hok'
  exact ⟨h, catalogue, catalogue', hok, hok', by decide +kernel, by decide +kernel, hrender⟩

end PointerHelpers.Document
