import PointerHelpers.Template.Parser

namespace PointerHelpers.Template

inductive TemplateError where
  | duplicate (name : String)
  | malformed (template : String) (mistake : Mistake) (text : String)
  deriving DecidableEq

def TemplateError.message : TemplateError → String
  | .duplicate name => "template `" ++ name ++ "` is defined more than once"
  | .malformed template mistake _ =>
    "template `" ++ template ++ "`: " ++ mistake.fault.message

structure TemplateSet where
  templates : List (String × List Node)

namespace TemplateSet

def empty : TemplateSet := ⟨[]⟩

def get? (set : TemplateSet) (name : String) : Option (List Node) :=
  set.templates.lookup name

def names (set : TemplateSet) : List String := set.templates.map (·.1)

def contains (set : TemplateSet) (name : String) : Bool := set.names.contains name

/-- Add a template. A name is defined once, whatever the text of the second definition. -/
def define (set : TemplateSet) (name text : String) : Except TemplateError TemplateSet :=
  if set.contains name then .error (.duplicate name)
  else
    match parse text with
    | .error mistake => .error (.malformed name mistake text)
    | .ok nodes => .ok ⟨set.templates ++ [(name, nodes)]⟩

def defineAll (set : TemplateSet) : List (String × String) → Except TemplateError TemplateSet
  | [] => .ok set
  | (name, text) :: rest =>
    match set.define name text with
    | .error error => .error error
    | .ok set => set.defineAll rest

end TemplateSet

end PointerHelpers.Template
