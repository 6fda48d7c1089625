import PointerHelpers.Catalogue.Registry
import PointerHelpers.Text.White

namespace PointerHelpers.Catalogue

open Text

inductive CatalogueError where
  | emptyTypeName (index : Nat)
  | invalidTypeName (typeName : String)
  | duplicateTypeName (typeName : String)
  | functionNameCollision (functionName first second : String)
  | emptyReferenceName (typeName locator : String)
  | invalidReferenceName (typeName referenceName : String)
  | invalidLocator (typeName locator : String)
  | referenceNameConflict (referenceName first second : String)
  deriving DecidableEq

def CatalogueError.message : CatalogueError → String
  | .emptyTypeName index => "catalogue entry #" ++ toString index ++ " has an empty type name"
  | .invalidTypeName typeName => "type name `" ++ typeName ++ "` is not a valid identifier"
  | .duplicateTypeName typeName => "type `" ++ typeName ++ "` is listed more than once"
  | .functionNameCollision functionName first second =>
    "types `" ++ first ++ "` and `" ++ second ++ "` both produce a function named `" ++
      functionName ++ "`"
  | .emptyReferenceName typeName locator =>
    "type `" ++ typeName ++ "` references `" ++ locator ++ "`, which has no usable name"
  | .invalidReferenceName typeName referenceName =>
    "type `" ++ typeName ++ "` is referred to through `" ++ referenceName ++
      "`, which is not a valid identifier"
  | .invalidLocator typeName locator =>
    "type `" ++ typeName ++ "` references `" ++ locator ++ "`, which is not a valid import path"
  | .referenceNameConflict referenceName first second =>
    "imports `" ++ first ++ "` and `" ++ second ++ "` are both referred to as `" ++
      referenceName ++ "`"

/-- Characters that an import path cannot hold, as they would end or change its quoted form. -/
def isForbiddenInLocator (c : Char) : Bool :=
  c == '"' || c == '\\' || isWhite c || isControl c

variable (earlier : Registry)

/-- The first function of a type that an earlier type produces too. -/
def collision? (type : ScalarType) : Option CatalogueError :=
  type.functionNames.findSome? fun functionName =>
    earlier.functions[functionName]?.map fun owner =>
      .functionNameCollision functionName owner type.name

/-- Enter names of one owner, each as soon as it is found to be free. So a name could also be taken
by the owner itself. -/
def enterAll (owner : String) (owners : Std.TreeMap String String) :
    List String → Except CatalogueError (Std.TreeMap String String)
  | [] => .ok owners
  | name :: rest =>
    match owners[name]? with
    | some first => .error (.functionNameCollision name first owner)
    | none => enterAll owner (owners.insertIfNew name owner) rest

theorem enterAll_eq (owner : String) {names : List String} (hd : names.Nodup)
    (owners entered : Std.TreeMap String String)
    (h : ∀ name ∈ names, entered[name]? = owners[name]?) :
    enterAll owner entered names =
      match names.findSome? fun name =>
        owners[name]?.map fun first => .functionNameCollision name first owner with
      | some error => .error error
      | none => .ok (names.foldl (·.insertIfNew · owner) entered) := by
  induction names generalizing entered with
  | nil => rfl
  | cons name rest ih =>
    rw [List.nodup_cons] at hd
    rw [enterAll, h name List.mem_cons_self, List.findSome?_cons]
    cases owners[name]? with
    | some first => rfl
    | none =>
      -- The entered name is none of the later ones, so that their look-ups stay as they are.
      apply ih hd.2
      intro other ho
      have hne : name ≠ other := fun he => hd.1 (he ▸ ho)
      rw [Registry.getElem?_insertIfNew, if_neg hne, Option.or_none]
      exact h other (List.mem_cons_of_mem _ ho)

theorem enterAll_functionNames (type : ScalarType) :
    enterAll type.name earlier.functions type.functionNames =
      match collision? earlier type with
      | some error => .error error
      | none => .ok (earlier.add type).functions :=
  enterAll_eq type.name type.functionNames_nodup earlier.functions earlier.functions fun _ _ => rfl

/-- Entering the names of a type one by one succeeds exactly when there is no collision, with the
names that the registry holds after the type. -/
theorem enterAll_eq_ok_iff (type : ScalarType) (owners : Std.TreeMap String String) :
    enterAll type.name earlier.functions type.functionNames = .ok owners ↔
      collision? earlier type = none ∧ (earlier.add type).functions = owners := by
  rw [enterAll_functionNames]
  cases collision? earlier type <;> simp

theorem enterAll_eq_error_iff (type : ScalarType) (error : CatalogueError) :
    enterAll type.name earlier.functions type.functionNames = .error error ↔
      collision? earlier type = some error := by
  rw [enterAll_functionNames]
  cases collision? earlier type <;> simp

/-- An earlier reference of the same name to another path. -/
def conflict? (reference : Reference) : Option CatalogueError :=
  match earlier.packages[reference.name]? with
  | none => none
  | some locator =>
    if locator = reference.locator then none
    else some (.referenceNameConflict reference.name locator reference.locator)

def referenceFault? (type : ScalarType) (reference : Reference) : Option CatalogueError :=
  if reference.locator.toList.any isForbiddenInLocator then
    some (.invalidLocator type.name reference.locator)
  else if reference.name = "" then some (.emptyReferenceName type.name reference.locator)
  else if reference.name = "_" || !isIdentifier reference.name.toList then
    some (.invalidReferenceName type.name reference.name)
  else conflict? earlier reference

def fault? (type : ScalarType) : Option CatalogueError :=
  if type.name = "" then some (.emptyTypeName earlier.size)
  else if !isIdentifier type.name.toList then some (.invalidTypeName type.name)
  else if earlier.types.contains type.name then some (.duplicateTypeName type.name)
  else (collision? earlier type).or (type.reference.bind (referenceFault? earlier type))

def firstFault? (earlier : Registry) : List ScalarType → Option CatalogueError
  | [] => none
  | type :: rest => (fault? earlier type).or (firstFault? (earlier.add type) rest)

end PointerHelpers.Catalogue
