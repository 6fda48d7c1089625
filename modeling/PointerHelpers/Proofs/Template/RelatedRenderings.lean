import Mathlib.Data.List.Forall2
import PointerHelpers.Proofs.Template.NamesInNodes
import PointerHelpers.Template.Renderer

namespace PointerHelpers.Template

/-- Values that nodes cannot tell apart if they cannot tell related items apart. -/
inductive Value.Matches (items : Scope → Scope → Prop) : Value → Value → Prop where
  | text (content : String) : Value.Matches items (.text content) (.text content)
  | list {inner inner' : List Scope} (alike : List.Forall₂ items inner inner') :
    Value.Matches items (.list inner) (.list inner')

section

variable {items : Scope → Scope → Prop}

theorem Value.matches_text_iff {content : String} {value : Value} :
    (Value.text content).Matches items value ↔ value = .text content := by
  constructor
  · rintro ⟨⟩
    rfl
  · rintro rfl
    exact .text content

theorem Value.matches_list_iff {inner : List Scope} {value : Value} :
    (Value.list inner).Matches items value ↔
      ∃ inner', value = .list inner' ∧ List.Forall₂ items inner inner' := by
  constructor
  · rintro ⟨⟩
    exact ⟨_, rfl, ‹_›⟩
  · rintro ⟨inner', rfl, alike⟩
    exact .list alike

theorem Value.Matches.isPresent_eq {value value' : Value} (h : value.Matches items value') :
    value.isPresent = value'.isPresent := by
  cases h with
  | text content => rfl
  | list alike => cases alike <;> rfl

theorem Value.Matches.refl (hi : ∀ item, items item item) :
    (value : Value) → value.Matches items value
  | .text content => .text content
  | .list _ => .list (List.forall₂_same.mpr fun item _ => hi item)

end

theorem none_or_some_of_rel {α β : Type} {related : α → β → Prop} {found : Option α}
    {found' : Option β} (h : Option.Rel related found found') :
    found = none ∧ found' = none ∨
      ∃ value value', found = some value ∧ found' = some value' ∧ related value value' := by
  cases h with
  | none => exact .inl ⟨rfl, rfl⟩
  | some h => exact .inr ⟨_, _, rfl, rfl, h⟩

section

variable {related : Value → Value → Prop} {asked : String}

namespace Scope

variable {scope scope' : Scope}

theorem rel_get?_text (name : String) {content content' : String}
    (hc : name = asked → related (.text content) (.text content'))
    (h : Option.Rel related (scope.get? asked) (scope'.get? asked)) :
    Option.Rel related ((scope.text name content).get? asked)
      ((scope'.text name content').get? asked) := by
  rw [get?, get?]
  split
  · exact .some (hc ‹_›)
  · exact h

theorem rel_get?_list (name : String) {items items' : List Scope}
    (hi : name = asked → related (.list items) (.list items'))
    (h : Option.Rel related (scope.get? asked) (scope'.get? asked)) :
    Option.Rel related ((scope.list name items).get? asked)
      ((scope'.list name items').get? asked) := by
  rw [get?, get?]
  split
  · exact .some (hi ‹_›)
  · exact h

end Scope

theorem Scopes.get?_cons (inner : Scope) (outer : Scopes) (name : String) :
    get? (inner :: outer) name = (inner.get? name).or (get? outer name) := by
  rw [get?, List.findSome?_cons, get?]
  cases inner.get? name <;> rfl

theorem Scopes.rel_get?_cons {inner inner' : Scope} {outer outer' : Scopes}
    (hi : Option.Rel related (inner.get? asked) (inner'.get? asked))
    (ho : Option.Rel related (outer.get? asked) (outer'.get? asked)) :
    Option.Rel related (get? (inner :: outer) asked) (get? (inner' :: outer') asked) := by
  rw [get?_cons, get?_cons]
  obtain ⟨hn, hn'⟩ | ⟨value, value', hv, hv', hvalues⟩ := none_or_some_of_rel hi
  · rw [hn, hn']
    exact ho
  · rw [hv, hv']
    exact .some hvalues

end

namespace Scopes

/-- Relations of stacks and of items such that related stacks bind these names alike, also within
related items. -/
structure Interchanges (names : String → Prop) (frames : Scopes → Scopes → Prop)
    (items : Scope → Scope → Prop) : Prop where
  bound {scopes scopes' : Scopes} (related : frames scopes scopes') {name : String}
    (asked : names name) :
    Option.Rel (Value.Matches items) (scopes.get? name) (scopes'.get? name)
  within {scopes scopes' : Scopes} {item item' : Scope} (related : frames scopes scopes')
    (inner : items item item') : frames (item :: scopes) (item' :: scopes')

theorem interchanges_of_get?_eq {frames : Scopes → Scopes → Prop} (names : String → Prop)
    (bound : ∀ {scopes scopes'}, frames scopes scopes' → ∀ name,
      scopes.get? name = scopes'.get? name)
    (within : ∀ {scopes scopes'}, frames scopes scopes' → ∀ item : Scope,
      frames (item :: scopes) (item :: scopes')) :
    Interchanges names frames (· = ·) where
  bound {scopes scopes'} related name _ := by
    rw [bound related name]
    cases scopes'.get? name with
    | none => exact .none
    | some value => exact .some (.refl (fun _ => rfl) value)
  within related inner := by
    cases inner
    exact within related _

theorem interchanges_eq (names : String → Prop) : Interchanges names (· = ·) (· = ·) :=
  interchanges_of_get?_eq names (fun h _ => h ▸ rfl) (fun h _ => h ▸ rfl)

end Scopes

namespace Rendering

/-- A relation of what two templates come to that sequences keep. -/
structure Relates (template template' : String) (related : Rendering → Rendering → Prop) :
    Prop where
  done : related .done .done
  single (text : String) : related (.single text) (.single text)
  unknownValue (name : String) :
    related (.fail (.unknownValue template name)) (.fail (.unknownValue template' name))
  wrongShape (name : String) (expected : Shape) :
    related (.fail (.wrongShape template name expected))
      (.fail (.wrongShape template' name expected))
  andThen {first second : Rendering} {later later' : Unit → Rendering} (h : related first second)
    (hl : related (later ()) (later' ())) : related (first.andThen later) (second.andThen later')

variable {template template' : String} {related : Rendering → Rendering → Prop}

theorem relates_eq (template : String) : Relates template template (· = ·) where
  done := rfl
  single _ := rfl
  unknownValue _ := rfl
  wrongShape _ _ := rfl
  andThen {_ _ later later'} h hl := by rw [h, show later = later' from funext fun _ => hl]

theorem Relates.forEach (hr : Relates template template' related) {α : Type} {items items' : List α}
    {render render' : α → Rendering}
    (h : List.Forall₂ (fun item item' => related (render item) (render' item')) items items') :
    related (forEach items render) (forEach items' render') := by
  induction h with
  | nil => exact hr.done
  | cons hitem _ ih => exact hr.andThen hitem ih

end Rendering

open Rendering

variable {names : String → Prop} {frames : Scopes → Scopes → Prop} {items : Scope → Scope → Prop}
  {template template' : String} {related : Rendering → Rendering → Prop}
  {call call' : String → Scopes → Rendering} {scopes scopes' : Scopes}

theorem related_renderNode_value (hr : Relates template template' related)
    (hs : Scopes.Interchanges names frames items) (h : frames scopes scopes') {name : String}
    (hn : names name) :
    related (renderNode call template scopes (.value name))
      (renderNode call' template' scopes' (.value name)) := by
  rw [renderNode, renderNode]
  obtain ⟨hv, hv'⟩ | ⟨value, value', hv, hv', halike⟩ := none_or_some_of_rel (hs.bound h hn)
  · rw [hv, hv']
    exact hr.unknownValue name
  · rw [hv, hv']
    cases halike with
    | text content => exact hr.single content
    | list alike => exact hr.wrongShape name .text

theorem related_renderNode_block (hr : Relates template template' related)
    (hs : Scopes.Interchanges names frames items) (h : frames scopes scopes') (kind : Block)
    {name : String} (hn : names name) {body body' : List Node}
    (hb : ∀ {inner inner'}, frames inner inner' →
      related (renderNodes call template inner body) (renderNodes call' template' inner' body')) :
    related (renderNode call template scopes (.block kind name body))
      (renderNode call' template' scopes' (.block kind name body')) := by
  obtain ⟨hv, hv'⟩ | ⟨value, value', hv, hv', halike⟩ := none_or_some_of_rel (hs.bound h hn)
  · cases kind <;>
    · rw [renderNode, renderNode, hv, hv']
      exact hr.unknownValue name
  · cases kind with
    | each =>
      rw [renderNode, renderNode, hv, hv']
      cases halike with
      | text content => exact hr.wrongShape name .list
      | list alike => exact hr.forEach (alike.imp fun _ _ hitem => hb (hs.within h hitem))
    | when =>
      rw [renderNode, renderNode, hv, hv']
      simp only [halike.isPresent_eq]
      split
      · exact hb h
      · exact hr.done

mutual

theorem related_renderNode (hr : Relates template template' related)
    (hs : Scopes.Interchanges names frames items) {scopes scopes' : Scopes}
    (h : frames scopes scopes') : ∀ node : Node,
    (∀ included ∈ node.inclusions, ∀ {inner inner'}, frames inner inner' →
      related (call included inner) (call' included inner')) →
    (∀ name ∈ node.mentions, names name) →
      related (renderNode call template scopes node) (renderNode call' template' scopes' node)
  | .text content, _, _ => by
    rw [renderNode, renderNode]
    exact hr.single content
  | .value name, _, hn => related_renderNode_value hr hs h (hn name (by simp [Node.mentions]))
  | .inclusion included, hc, _ => by
    rw [renderNode, renderNode]
    exact hc included (by simp [Node.inclusions]) h
  | .block kind name body, hc, hn =>
    related_renderNode_block hr hs h kind (hn name (by simp [Node.mentions])) fun hi =>
      related_renderNodes hr hs hi body (fun included hm => hc included (by rwa [Node.inclusions]))
        fun other hm => hn other (by simp [Node.mentions, hm])

theorem related_renderNodes (hr : Relates template template' related)
    (hs : Scopes.Interchanges names frames items) {scopes scopes' : Scopes}
    (h : frames scopes scopes') : ∀ nodes : List Node,
    (∀ included ∈ inclusions nodes, ∀ {inner inner'}, frames inner inner' →
      related (call included inner) (call' included inner')) →
    (∀ name ∈ mentions nodes, names name) →
      related (renderNodes call template scopes nodes) (renderNodes call' template' scopes' nodes)
  | [], _, _ => by
    rw [renderNodes, renderNodes]
    exact hr.done
  | node :: rest, hc, hn => by
    rw [inclusions] at hc
    rw [mentions] at hn
    rw [renderNodes, renderNodes]
    exact hr.andThen
      (related_renderNode hr hs h node (fun included hm => hc included (List.mem_append_left _ hm))
        fun name hm => hn name (List.mem_append_left _ hm))
      (related_renderNodes hr hs h rest
        (fun included hm => hc included (List.mem_append_right _ hm))
        fun name hm => hn name (List.mem_append_right _ hm))

end

end PointerHelpers.Template
