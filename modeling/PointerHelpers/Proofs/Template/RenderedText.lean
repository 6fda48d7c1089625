import PointerHelpers.Proofs.Template.Layout
import PointerHelpers.Template.Renderer

namespace PointerHelpers.Template

namespace Rendering

theorem textAfter_eq_ok_iff (rendering : Rendering) (before text : String) :
    rendering.textAfter before = .ok text ↔
      rendering.fault = none ∧ before ++ rendering.output = text := by
  induction rendering generalizing before with
  | done => simp [textAfter, fault, output, pieces]
  | fail fault => simp [textAfter, Rendering.fault]
  | piece content rest ih =>
    rw [textAfter, ih, fault, output, output, pieces, String.join_cons, String.append_assoc]

theorem text_eq_ok_iff (rendering : Rendering) (text : String) :
    rendering.text = .ok text ↔ rendering.fault = none ∧ rendering.output = text := by
  rw [Rendering.text, textAfter_eq_ok_iff, String.empty_append]

theorem text_single (content : String) : (single content).text = .ok content := by
  rw [Rendering.text, single, textAfter, textAfter, String.empty_append]

theorem text_andThen {first : Rendering} {second : Unit → Rendering} {before after : String}
    (hf : first.text = .ok before) (hs : (second ()).text = .ok after) :
    (first.andThen second).text = .ok (before ++ after) := by
  rw [text_eq_ok_iff] at hf hs
  obtain ⟨hff, rfl⟩ := hf
  obtain ⟨hsf, rfl⟩ := hs
  rw [text_eq_ok_iff, fault_andThen, output, pieces_andThen, hff, hsf]
  exact ⟨rfl, String.join_append⟩

theorem text_forEach {α : Type} {render : α → Rendering} {text : α → String} {items : List α}
    (h : ∀ item ∈ items, (render item).text = .ok (text item)) :
    (forEach items render).text = .ok (String.join (items.map text)) := by
  induction items with
  | nil => rfl
  | cons item rest ih =>
    rw [List.forall_mem_cons] at h
    rw [forEach, List.map_cons, String.join_cons]
    exact text_andThen h.1 (ih h.2)

end Rendering

open Rendering

variable {call : String → Scopes → Rendering} {template : String} {scopes : Scopes}

theorem text_renderNodes_nil : (renderNodes call template scopes []).text = .ok "" := by
  rw [renderNodes]
  rfl

theorem text_renderNodes_cons {node : Node} {rest : List Node} {before after : String}
    (hn : (renderNode call template scopes node).text = .ok before)
    (hr : (renderNodes call template scopes rest).text = .ok after) :
    (renderNodes call template scopes (node :: rest)).text = .ok (before ++ after) := by
  rw [renderNodes]
  exact text_andThen hn hr

theorem text_renderNode_text (content : String) :
    (renderNode call template scopes (.text content)).text = .ok content := by
  rw [renderNode]
  exact text_single content

theorem text_renderNode_value {name content : String}
    (h : scopes.get? name = some (.text content)) :
    (renderNode call template scopes (.value name)).text = .ok content := by
  rw [renderNode, h]
  exact text_single content

theorem text_renderNode_inclusion {included text : String}
    (h : (call included scopes).text = .ok text) :
    (renderNode call template scopes (.inclusion included)).text = .ok text := by
  rwa [renderNode]

theorem text_renderNode_each {α : Type} {name : String} {items : List α} {scope : α → Scope}
    {body : List Node} {text : α → String} (h : scopes.get? name = some (.list (items.map scope)))
    (hb : ∀ item ∈ items,
      (renderNodes call template (scope item :: scopes) body).text = .ok (text item)) :
    (renderNode call template scopes (.block .each name body)).text =
      .ok (String.join (items.map text)) := by
  rw [renderNode, h]
  simp only [forEach_map]
  exact text_forEach hb

theorem text_renderNode_when {name text : String} {value : Value} {body : List Node}
    (h : scopes.get? name = some value)
    (hb : (renderNodes call template scopes body).text = .ok text) :
    (renderNode call template scopes (.block .when name body)).text =
      .ok (if value.isPresent then text else "") := by
  rw [renderNode, h]
  cases hp : value.isPresent with
  | true => simpa [hp] using hb
  | false =>
    simp only [hp]
    rfl

theorem TemplateSet.text_renderWithin {set : TemplateSet} {levels : Nat} {nodes : List Node}
    {text : String} (hg : set.get? template = some nodes)
    (ht : (renderNodes (set.renderWithin levels) template scopes nodes).text = .ok text) :
    (set.renderWithin (levels + 1) template scopes).text = .ok text := by
  rwa [renderWithin_of_get? hg]

namespace Node

def IsPlain (names : List String) : Node → Prop
  | .text _ => True
  | .value name => name ∈ names
  | .inclusion _ | .block .. => False

instance (names : List String) : DecidablePred (IsPlain names)
  | .text _ => inferInstanceAs (Decidable True)
  | .value name => inferInstanceAs (Decidable (name ∈ names))
  | .inclusion _ | .block .. => inferInstanceAs (Decidable False)

def fill (values : String → String) : Node → String
  | .text content => content
  | .value name => values name
  | .inclusion _ | .block .. => ""

end Node

def fillAll (values : String → String) (nodes : List Node) : String :=
  String.join (nodes.map (Node.fill values))

theorem text_renderNodes_plain {names : List String} {values : String → String} {nodes : List Node}
    (hp : ∀ node ∈ nodes, node.IsPlain names)
    (hv : ∀ name ∈ names, scopes.get? name = some (.text (values name))) :
    (renderNodes call template scopes nodes).text = .ok (fillAll values nodes) := by
  induction nodes with
  | nil => exact text_renderNodes_nil
  | cons node rest ih =>
    rw [List.forall_mem_cons] at hp
    rw [fillAll, List.map_cons, String.join_cons]
    refine text_renderNodes_cons ?_ (ih hp.2)
    cases node with
    | text content => exact text_renderNode_text content
    | value name => exact text_renderNode_value (hv name hp.1)
    | inclusion included => exact hp.1.elim
    | block kind name body => exact hp.1.elim

theorem layout_plain {names : List String} {nodes : List Node}
    (hp : ∀ node ∈ nodes, node.IsPlain names) : layout nodes = fillAll braced nodes := by
  rw [← String.toList_inj, layout, String.toList_ofList, fillAll]
  induction nodes with
  | nil =>
    rw [readNodes]
    rfl
  | cons node rest ih =>
    rw [List.forall_mem_cons] at hp
    rw [List.map_cons, String.join_cons, String.toList_append, ← ih hp.2, readNodes]
    cases node with
    | text content =>
      rw [readNode]
      rfl
    | value name =>
      have hb : (braced name).toList = openBraces ++ name.toList ++ closeBraces := by
        simp [braced, openBraces, closeBraces]
      rw [readNode, List.singleton_append, layoutEvents, Tag.layout, Tag.content, Tag.isValue,
        Node.fill, hb]
      simp
    | inclusion included => exact hp.1.elim
    | block kind name body => exact hp.1.elim

end PointerHelpers.Template
