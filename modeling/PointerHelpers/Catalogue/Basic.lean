import PointerHelpers.Catalogue.Validity

namespace PointerHelpers

open Catalogue

structure Catalogue where
  types : List ScalarType
  sound : firstFault? .empty types = none

namespace Catalogue

def ofTypes (types : List ScalarType) : Except CatalogueError Catalogue :=
  match sound : firstFault? .empty types with
  | none => .ok ⟨types, sound⟩
  | some error => .error error

def standardTypes : List ScalarType :=
  ["string", "int", "int8", "int16", "int32", "int64", "uint", "uint8", "uint16", "uint32",
    "uint64", "float32", "float64"].map .builtin ++ [⟨"Time", some ⟨"time", none⟩⟩]

def standard : Catalogue := ⟨standardTypes, by decide +kernel⟩

def Reference.key (reference : Reference) : String × String := (reference.locator, reference.name)

def distinctImports (seen : Std.TreeSet (String × String) lexOrd.compare) :
    List Reference → List Reference
  | [] => []
  | reference :: rest =>
    if seen.contains reference.key then distinctImports seen rest
    else reference :: distinctImports (seen.insert reference.key) rest

/-- The imports that the types of the catalogue need, in the order of first use. -/
def requiredReferences (catalogue : Catalogue) : List Reference :=
  distinctImports ∅ (catalogue.types.filterMap (·.reference))

end Catalogue

end PointerHelpers
