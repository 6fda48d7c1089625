import PointerHelpers.Catalogue.ScalarType
import Std.Data.TreeMap
import Std.Data.TreeSet

namespace PointerHelpers.Catalogue

/-- The names of types, of functions with the first type that produces each, and of packages with
the first import path of each. -/
structure Registry where
  size : Nat
  types : Std.TreeSet String
  functions : Std.TreeMap String String
  packages : Std.TreeMap String String

namespace Registry

def empty : Registry := ⟨0, ∅, ∅, ∅⟩

def add (registry : Registry) (type : ScalarType) : Registry where
  size := registry.size + 1
  types := registry.types.insert type.name
  functions := type.functionNames.foldl (·.insertIfNew · type.name) registry.functions
  packages :=
    match type.reference with
    | none => registry.packages
    | some reference => registry.packages.insertIfNew reference.name reference.locator

def addAll (registry : Registry) (types : List ScalarType) : Registry := types.foldl add registry

theorem size_addAll (registry : Registry) (types : List ScalarType) :
    (registry.addAll types).size = registry.size + types.length := by
  induction types generalizing registry with
  | nil => rfl
  | cons type types ih =>
    rw [addAll, List.foldl_cons, ← addAll, ih, List.length_cons]
    simp only [add]
    omega

theorem contains_types_addAll (registry : Registry) (types : List ScalarType) (name : String) :
    (registry.addAll types).types.contains name =
      (registry.types.contains name || types.any (·.name == name)) := by
  induction types generalizing registry with
  | nil => simp [addAll]
  | cons type types ih =>
    rw [addAll, List.foldl_cons, ← addAll, ih, add, Std.TreeSet.contains_insert, List.any_cons]
    rw [Bool.or_comm (_ == _), Bool.or_assoc]
    by_cases h : type.name = name
    · simp [h]
    · rw [beq_eq_false_iff_ne.2 h, beq_eq_false_iff_ne.2 (mt Std.LawfulEqCmp.eq_of_compare h)]

theorem getElem?_insertIfNew (owners : Std.TreeMap String String) (first name owner : String) :
    (owners.insertIfNew first owner)[name]? =
      owners[name]?.or (if first = name then some owner else none) := by
  rw [Std.TreeMap.getElem?_insertIfNew]
  by_cases h : first = name
  · subst h
    by_cases hm : first ∈ owners
    · simp [hm]
    · simp [hm]
  · simp [h]

theorem getElem?_insertAllIfNew (owners : Std.TreeMap String String) (names : List String)
    (owner name : String) :
    (names.foldl (·.insertIfNew · owner) owners)[name]? =
      owners[name]?.or (if names.contains name then some owner else none) := by
  induction names generalizing owners with
  | nil => simp
  | cons first names ih =>
    rw [List.foldl_cons, ih, getElem?_insertIfNew, Option.or_assoc, List.contains_cons]
    by_cases h : first = name
    · simp [h]
    · simp [h, show ¬ name = first from fun e => h e.symm]

theorem getElem?_functions_addAll (registry : Registry) (types : List ScalarType) (name : String) :
    (registry.addAll types).functions[name]? =
      registry.functions[name]?.or
        ((types.find? (·.functionNames.contains name)).map (·.name)) := by
  induction types generalizing registry with
  | nil => simp [addAll]
  | cons type types ih =>
    rw [addAll, List.foldl_cons, ← addAll, ih, add, getElem?_insertAllIfNew, List.find?_cons]
    cases type.functionNames.contains name <;> simp

theorem getElem?_packages_addAll (registry : Registry) (types : List ScalarType) (name : String) :
    (registry.addAll types).packages[name]? =
      registry.packages[name]?.or
        (((types.filterMap (·.reference)).find? (·.name == name)).map (·.locator)) := by
  induction types generalizing registry with
  | nil => simp [addAll]
  | cons type types ih =>
    rw [addAll, List.foldl_cons, ← addAll, ih, add]
    cases hr : type.reference with
    | none => rw [List.filterMap_cons_none hr]
    | some reference =>
      rw [List.filterMap_cons_some hr, List.find?_cons, getElem?_insertIfNew, Option.or_assoc]
      by_cases h : reference.name = name
      · simp [h]
      · rw [beq_eq_false_iff_ne.2 h]
        simp [h]

end Registry

end PointerHelpers.Catalogue
