import PointerHelpers.Text.Identifier

namespace PointerHelpers.Catalogue

open Text

/-- A package that a type comes from: its import path, and the name it is imported under if that is
chosen. -/
structure Reference where
  locator : String
  localName : Option String
  deriving DecidableEq

namespace Reference

def lastSegment (locator : String) : String :=
  .ofList (locator.toList.reverse.takeWhile (· != '/')).reverse

def chosenName (reference : Reference) : Option String :=
  reference.localName.filter (· != "")

def name (reference : Reference) : String :=
  reference.chosenName.getD (lastSegment reference.locator)

end Reference

structure ScalarType where
  name : String
  reference : Option Reference
  deriving DecidableEq

namespace ScalarType

def builtin (name : String) : ScalarType := ⟨name, none⟩

def displayName (type : ScalarType) : String := .ofList (capitalize type.name.toList)

def symbol (type : ScalarType) : String :=
  match type.reference with
  | some reference => reference.name ++ "." ++ type.name
  | none => type.name

def toPointerNames (type : ScalarType) : List String :=
  [type.displayName, type.displayName ++ "Slice", type.displayName ++ "Map"]

def fromPointerNames (type : ScalarType) : List String :=
  type.toPointerNames.map ("To" ++ ·)

def functionNames (type : ScalarType) : List String :=
  type.toPointerNames ++ type.fromPointerNames

theorem functionNames_nodup (type : ScalarType) : type.functionNames.Nodup := by
  -- The names are told apart by their lengths and, where two lengths agree, by their last letters.
  have hslice : "Slice".length = 5 := rfl
  have hmap : "Map".length = 3 := rfl
  have hto : "To".length = 2 := rfl
  have hkeys : type.functionNames.map (fun name => (name.length, name.toList.getLast?)) =
      [(type.displayName.length, type.displayName.toList.getLast?),
        (type.displayName.length + 5, some 'e'), (type.displayName.length + 3, some 'p'),
        (type.displayName.length + 2, some (type.displayName.toList.getLast?.getD 'o')),
        (type.displayName.length + 7, some 'e'), (type.displayName.length + 5, some 'p')] := by
    simp [functionNames, fromPointerNames, toPointerNames, List.getLast?_cons, hslice, hmap, hto]
    omega
  have hn : (type.functionNames.map fun name => (name.length, name.toList.getLast?)).Nodup := by
    rw [hkeys]
    simp
  refine List.Pairwise.of_map _ ?_ hn
  rintro name _ hne rfl
  exact hne rfl

end ScalarType

end PointerHelpers.Catalogue
