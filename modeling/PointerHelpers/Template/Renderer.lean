import PointerHelpers.Template.Rendering
import PointerHelpers.Template.Scope
import PointerHelpers.Template.TemplateSet

namespace PointerHelpers.Template

variable (call : String → Scopes → Rendering) (template : String)

mutual

/-- Render a node of `template`; `call` renders the templates it includes. -/
def renderNode (scopes : Scopes) : Node → Rendering
  | .text content => .single content
  | .value name =>
    match scopes.get? name with
    | none => .fail (.unknownValue template name)
    | some (.list _) => .fail (.wrongShape template name .text)
    | some (.text content) => .single content
  | .inclusion included => call included scopes
  | .block .each name body =>
    match scopes.get? name with
    | none => .fail (.unknownValue template name)
    | some (.text _) => .fail (.wrongShape template name .list)
    | some (.list items) => .forEach items fun item => renderNodes (item :: scopes) body
  | .block .when name body =>
    match scopes.get? name with
    | none => .fail (.unknownValue template name)
    | some value => if value.isPresent then renderNodes scopes body else .done

def renderNodes (scopes : Scopes) : List Node → Rendering
  | [] => .done
  | node :: rest => (renderNode scopes node).andThen fun _ => renderNodes scopes rest

end

namespace TemplateSet

/-- Render the template called `name` where `levels` more templates may be nested. -/
def renderWithin (set : TemplateSet) : Nat → String → Scopes → Rendering
  | 0, _, _ => .fail .tooDeep
  | levels + 1, name, scopes =>
    match set.get? name with
    | none => .fail (.unknownTemplate name)
    | some nodes => renderNodes (set.renderWithin levels) name scopes nodes

theorem renderWithin_of_get? {set : TemplateSet} {name : String} {nodes : List Node}
    (h : set.get? name = some nodes) (levels : Nat) (scopes : Scopes) :
    set.renderWithin (levels + 1) name scopes =
      renderNodes (set.renderWithin levels) name scopes nodes := by
  rw [renderWithin, h]

theorem renderWithin_of_get?_eq_none {set : TemplateSet} {name : String}
    (h : set.get? name = none) (levels : Nat) (scopes : Scopes) :
    set.renderWithin (levels + 1) name scopes = .fail (.unknownTemplate name) := by
  rw [renderWithin, h]

def render (set : TemplateSet) (name : String) (scope : Scope) : Rendering :=
  set.renderWithin (maxDepth + 1) name [scope]

end TemplateSet

end PointerHelpers.Template
