import PointerHelpers.Proofs.Template.NamesInNodes
import PointerHelpers.Template.Renderer

namespace PointerHelpers.Template

namespace Rendering

theorem fault_andThen_eq_some_iff (first : Rendering) (second : Unit → Rendering)
    (fault : RenderFault) :
    (first.andThen second).fault = some fault ↔
      first.fault = some fault ∨ first.fault = none ∧ (second ()).fault = some fault := by
  rw [fault_andThen, Option.or_eq_some_iff]

theorem fault_forEach_eq_some_iff {α : Type} (items : List α) (render : α → Rendering)
    (fault : RenderFault) :
    (forEach items render).fault = some fault ↔
      ∃ earlier item later, items = earlier ++ item :: later ∧
        (forEach earlier render).fault = none ∧ (render item).fault = some fault := by
  induction items with
  | nil => simp [forEach, Rendering.fault]
  | cons first rest ih =>
    rw [forEach, fault_andThen_eq_some_iff, ih]
    constructor
    · rintro (hf | ⟨hn, earlier, item, later, rfl, he, hf⟩)
      · exact ⟨[], first, rest, rfl, rfl, hf⟩
      · refine ⟨first :: earlier, item, later, rfl, ?_, hf⟩
        rw [forEach, fault_andThen, hn, he, Option.none_or]
    · rintro ⟨earlier, item, later, hs, he, hf⟩
      cases earlier with
      | nil =>
        cases hs
        exact .inl hf
      | cons known earlier =>
        cases hs
        rw [forEach, fault_andThen, Option.or_eq_none_iff] at he
        exact .inr ⟨he.1, earlier, item, later, rfl, he.2, hf⟩

end Rendering

open Rendering

/-- Rendering the nodes of a template comes to an include, in these scopes, with no fault before
it. -/
inductive ComesTo (call : String → Scopes → Rendering) (template included : String)
    (inner : Scopes) : Scopes → List Node → Prop where
  | here {rest : List Node} :
    ComesTo call template included inner inner (.inclusion included :: rest)
  | later {scopes : Scopes} {node : Node} {rest : List Node}
    (before : (renderNode call template scopes node).fault = none)
    (comes : ComesTo call template included inner scopes rest) :
    ComesTo call template included inner scopes (node :: rest)
  | inItem {scopes : Scopes} {name : String} {earlier later : List Scope} {item : Scope}
    {body rest : List Node} (bound : scopes.get? name = some (.list (earlier ++ item :: later)))
    (before : (forEach earlier fun item =>
      renderNodes call template (item :: scopes) body).fault = none)
    (comes : ComesTo call template included inner (item :: scopes) body) :
    ComesTo call template included inner scopes (.block .each name body :: rest)
  | whenPresent {scopes : Scopes} {name : String} {value : Value} {body rest : List Node}
    (bound : scopes.get? name = some value) (present : value.isPresent = true)
    (comes : ComesTo call template included inner scopes body) :
    ComesTo call template included inner scopes (.block .when name body :: rest)

variable {call : String → Scopes → Rendering} {template included : String} {scopes inner : Scopes}
  {fault : RenderFault}

theorem ComesTo.fault_eq {nodes : List Node} (h : ComesTo call template included inner scopes nodes)
    (hf : (call included inner).fault = some fault) :
    (renderNodes call template scopes nodes).fault = some fault := by
  induction h with
  | here =>
    rw [renderNodes, fault_andThen_eq_some_iff, renderNode]
    exact .inl hf
  | later before _ ih =>
    rw [renderNodes, fault_andThen_eq_some_iff]
    exact .inr ⟨before, ih⟩
  | inItem bound before _ ih =>
    rw [renderNodes, fault_andThen_eq_some_iff, renderNode, bound]
    exact .inl ((fault_forEach_eq_some_iff _ _ _).mpr ⟨_, _, _, rfl, before, ih⟩)
  | whenPresent bound present _ ih =>
    rw [renderNodes, fault_andThen_eq_some_iff, renderNode, bound]
    simp only [if_pos present]
    exact .inl ih

/-- Stacks that blocks come to: items of lists that are bound further out are put on top. -/
inductive Scopes.Deepens (inner : Scopes) : Scopes → Prop where
  | here : Deepens inner inner
  | inItem {scopes : Scopes} {name : String} {items : List Scope} {item : Scope}
    (bound : scopes.get? name = some (.list items)) (mem : item ∈ items)
    (deeper : Deepens inner (item :: scopes)) : Deepens inner scopes

theorem Scopes.Deepens.trans {outer middle : Scopes} (h : inner.Deepens middle)
    (hm : middle.Deepens outer) : inner.Deepens outer := by
  induction hm with
  | here => exact h
  | inItem bound mem _ ih => exact .inItem bound mem ih

/-- A node of a template fails by itself: its value is bound nowhere in the scopes, or is not of the
shape that it asks for. -/
inductive Node.Fails (template : String) (scopes : Scopes) : Node → RenderFault → Prop where
  | unbound {name : String} (unbound : scopes.get? name = none) :
    Fails template scopes (.value name) (.unknownValue template name)
  | unboundBlock (kind : Block) {name : String} (body : List Node)
    (unbound : scopes.get? name = none) :
    Fails template scopes (.block kind name body) (.unknownValue template name)
  | listShown {name : String} {items : List Scope} (bound : scopes.get? name = some (.list items)) :
    Fails template scopes (.value name) (.wrongShape template name .text)
  | textRepeated {name content : String} (body : List Node)
    (bound : scopes.get? name = some (.text content)) :
    Fails template scopes (.block .each name body) (.wrongShape template name .list)

/-- How nodes come to a fault. -/
inductive Arises (call : String → Scopes → Rendering) (template : String) (fault : RenderFault)
    (scopes : Scopes) (nodes : List Node) : Prop where
  | atNode {part : Node} {inner : Scopes} (mem : part ∈ parts nodes)
    (deeper : inner.Deepens scopes) (fails : part.Fails template inner fault) :
    Arises call template fault scopes nodes
  | atInclude {included : String} {inner : Scopes}
    (found : (call included inner).fault = some fault)
    (comes : ComesTo call template included inner scopes nodes) :
    Arises call template fault scopes nodes

theorem mem_parts_self (node : Node) (rest : List Node) : node ∈ parts (node :: rest) := by
  cases node <;> simp [parts, Node.parts]

theorem mem_parts_block {part : Node} {body : List Node} (kind : Block) (name : String)
    (h : part ∈ parts body) (rest : List Node) : part ∈ parts (.block kind name body :: rest) := by
  simp [parts, Node.parts, h]

namespace Arises

variable {node : Node} {name : String} {body : List Node}

theorem self (h : node.Fails template scopes fault) (rest : List Node) :
    Arises call template fault scopes (node :: rest) :=
  .atNode (mem_parts_self node rest) .here h

theorem later {rest : List Node} (before : (renderNode call template scopes node).fault = none)
    (h : Arises call template fault scopes rest) :
    Arises call template fault scopes (node :: rest) := by
  cases h with
  | atNode mem deeper fails => exact .atNode (List.mem_append_right _ mem) deeper fails
  | atInclude found comes => exact .atInclude found (.later before comes)

theorem inItem {earlier later : List Scope} {item : Scope}
    (bound : scopes.get? name = some (.list (earlier ++ item :: later)))
    (before : (forEach earlier fun item =>
      renderNodes call template (item :: scopes) body).fault = none)
    (h : Arises call template fault (item :: scopes) body) (rest : List Node) :
    Arises call template fault scopes (.block .each name body :: rest) := by
  cases h with
  | atNode mem deeper fails =>
    exact .atNode (mem_parts_block _ _ mem rest) (.inItem bound (by simp) deeper) fails
  | atInclude found comes => exact .atInclude found (.inItem bound before comes)

theorem whenPresent {value : Value} (bound : scopes.get? name = some value)
    (present : value.isPresent = true) (h : Arises call template fault scopes body)
    (rest : List Node) : Arises call template fault scopes (.block .when name body :: rest) := by
  cases h with
  | atNode mem deeper fails => exact .atNode (mem_parts_block _ _ mem rest) deeper fails
  | atInclude found comes => exact .atInclude found (.whenPresent bound present comes)

end Arises

mutual

theorem arises_of_renderNode (scopes : Scopes) : ∀ node : Node,
    (renderNode call template scopes node).fault = some fault →
      ∀ rest, Arises call template fault scopes (node :: rest)
  | .text content => by
    intro h
    cases h
  | .value name => by
    rw [renderNode]
    intro h
    cases hb : scopes.get? name with
    | none =>
      rw [hb] at h
      cases h
      exact .self (.unbound hb)
    | some value =>
      rw [hb] at h
      cases value with
      | text content => cases h
      | list items =>
        cases h
        exact .self (.listShown hb)
  | .inclusion included => fun h _ => .atInclude h .here
  | .block .each name body => by
    rw [renderNode]
    intro h
    cases hb : scopes.get? name with
    | none =>
      rw [hb] at h
      cases h
      exact .self (.unboundBlock .each body hb)
    | some value =>
      rw [hb] at h
      cases value with
      | text content =>
        cases h
        exact .self (.textRepeated body hb)
      | list items =>
        obtain ⟨earlier, item, later, rfl, he, hf⟩ := (fault_forEach_eq_some_iff _ _ _).mp h
        exact .inItem hb he (arises_of_renderNodes (item :: scopes) body hf)
  | .block .when name body => by
    rw [renderNode]
    intro h
    cases hb : scopes.get? name with
    | none =>
      rw [hb] at h
      cases h
      exact .self (.unboundBlock .when body hb)
    | some value =>
      simp only [hb] at h
      by_cases hp : value.isPresent = true
      · rw [if_pos hp] at h
        exact .whenPresent hb hp (arises_of_renderNodes scopes body h)
      · rw [if_neg hp] at h
        cases h

theorem arises_of_renderNodes (scopes : Scopes) : ∀ nodes : List Node,
    (renderNodes call template scopes nodes).fault = some fault →
      Arises call template fault scopes nodes
  | [] => by
    intro h
    cases h
  | node :: rest => by
    rw [renderNodes, fault_andThen_eq_some_iff]
    rintro (h | ⟨hn, h⟩)
    · exact arises_of_renderNode scopes node h rest
    · exact .later hn (arises_of_renderNodes scopes rest h)

end

theorem ComesTo.mem_inclusions {nodes : List Node}
    (h : ComesTo call template included inner scopes nodes) : included ∈ inclusions nodes := by
  induction h with
  | here => simp [inclusions, Node.inclusions]
  | later _ _ ih => exact List.mem_append_right _ ih
  | inItem _ _ _ ih | whenPresent _ _ _ ih =>
    rw [inclusions, Node.inclusions]
    exact List.mem_append_left _ ih

theorem ComesTo.deepens {nodes : List Node}
    (h : ComesTo call template included inner scopes nodes) : inner.Deepens scopes := by
  induction h with
  | here => exact .here
  | later _ _ ih | whenPresent _ _ _ ih => exact ih
  | inItem bound _ _ ih => exact .inItem bound (by simp) ih

theorem fault_renderNode_eq_none {nodes : List Node}
    (h : (renderNodes call template scopes nodes).fault = none) :
    ∀ node ∈ nodes, (renderNode call template scopes node).fault = none := by
  induction nodes with
  | nil => simp
  | cons node rest ih =>
    rw [renderNodes, fault_andThen, Option.or_eq_none_iff] at h
    exact List.forall_mem_cons.mpr ⟨h.1, ih h.2⟩

end PointerHelpers.Template
