namespace PointerHelpers.Template

/-- Values bound one after another to names. A binding hides the earlier ones of its name. -/
inductive Scope where
  | empty
  | text (earlier : Scope) (name content : String)
  | list (earlier : Scope) (name : String) (items : List Scope)

inductive Value where
  | text (content : String)
  | list (items : List Scope)

namespace Value

/-- What an `if` block asks of a value: a text or a list that is not empty. -/
def isPresent : Value → Bool
  | .text content => content != ""
  | .list items => !items.isEmpty

end Value

namespace Scope

def get? : Scope → String → Option Value
  | .empty, _ => none
  | .text earlier bound content, name =>
    if bound = name then some (.text content) else earlier.get? name
  | .list earlier bound items, name =>
    if bound = name then some (.list items) else earlier.get? name

def names : Scope → List String
  | .empty => []
  | .text earlier name _ => name :: earlier.names
  | .list earlier name _ => name :: earlier.names

mutual

/-- Whether a second scope binds every name that the first binds, and equally, the hidden names
apart. -/
def coveredBy (hidden : List String) : Scope → Scope → Bool
  | .empty, _ => true
  | .text earlier name content, other =>
    (hidden.contains name ||
      match other.get? name with
      | some (.text content') => content == content'
      | _ => false) &&
    coveredBy (name :: hidden) earlier other
  | .list earlier name items, other =>
    (hidden.contains name ||
      match other.get? name with
      | some (.list items') => allEquiv items items'
      | _ => false) &&
    coveredBy (name :: hidden) earlier other

def allEquiv : List Scope → List Scope → Bool
  | [], [] => true
  | scope :: scopes, other :: others =>
    coveredBy [] scope other && other.names.all scope.names.contains && allEquiv scopes others
  | _, _ => false

end

def equiv (scope other : Scope) : Bool :=
  coveredBy [] scope other && other.names.all scope.names.contains

instance : BEq Scope := ⟨equiv⟩

end Scope

abbrev Scopes := List Scope

def Scopes.get? (scopes : Scopes) (name : String) : Option Value :=
  scopes.findSome? (·.get? name)

end PointerHelpers.Template
