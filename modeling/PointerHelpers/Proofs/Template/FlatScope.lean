import PointerHelpers.Proofs.Template.RelatedRenderings

namespace PointerHelpers.Template

namespace Scope

def under (outer : Scope) : Scope → Scope
  | .empty => outer
  | .text earlier name content => .text (outer.under earlier) name content
  | .list earlier name items => .list (outer.under earlier) name items

theorem get?_under (outer : Scope) (name : String) : (inner : Scope) →
    (outer.under inner).get? name = (inner.get? name).or (outer.get? name)
  | .empty => rfl
  | .text earlier bound content => by
    rw [under, get?, get?, get?_under outer name earlier]
    split <;> rfl
  | .list earlier bound items => by
    rw [under, get?, get?, get?_under outer name earlier]
    split <;> rfl

/-- One scope in place of a stack: it binds every name as the innermost scope that binds it. -/
def Flattens (flat : Scope) (scopes : Scopes) : Prop :=
  ∀ name, flat.get? name = scopes.get? name

end Scope

namespace Scopes

def flat : Scopes → Scope
  | [] => .empty
  | inner :: outer => (flat outer).under inner

theorem flattens_flat (scopes : Scopes) : scopes.flat.Flattens scopes := by
  induction scopes with
  | nil => exact fun _ => rfl
  | cons inner outer ih =>
    intro name
    rw [flat, Scope.get?_under, get?_cons, ih name]

def Agree (scopes scopes' : Scopes) : Prop := ∀ name, scopes.get? name = scopes'.get? name

theorem Agree.cons {scopes scopes' : Scopes} (h : scopes.Agree scopes') (item : Scope) :
    Agree (item :: scopes) (item :: scopes') := by
  intro name
  rw [get?_cons, get?_cons, h name]

end Scopes

namespace Scope.Flattens

variable {flat : Scope} {scopes : Scopes}

theorem agree (h : flat.Flattens scopes) : scopes.Agree [flat] := by
  intro name
  rw [Scopes.get?_cons, h name]
  exact Option.or_none.symm

theorem under (h : flat.Flattens scopes) (item : Scope) :
    (flat.under item).Flattens (item :: scopes) := by
  intro name
  rw [get?_under, Scopes.get?_cons, h name]

end Scope.Flattens

theorem Scopes.interchanges_agree (names : String → Prop) :
    Interchanges names Agree (· = ·) :=
  interchanges_of_get?_eq names (fun h => h) fun h => h.cons

theorem renderNodes_agree {call : String → Scopes → Rendering} {template : String}
    (hc : ∀ name scopes scopes', scopes.Agree scopes' → call name scopes = call name scopes')
    {scopes scopes' : Scopes} (h : scopes.Agree scopes') (nodes : List Node) :
    renderNodes call template scopes nodes = renderNodes call template scopes' nodes :=
  related_renderNodes (Rendering.relates_eq template) (Scopes.interchanges_agree fun _ => True) h
    nodes (fun included _ _ _ hi => hc included _ _ hi) fun _ _ => trivial

namespace TemplateSet

theorem renderWithin_agree (set : TemplateSet) (levels : Nat) (name : String)
    (scopes scopes' : Scopes) (h : scopes.Agree scopes') :
    set.renderWithin levels name scopes = set.renderWithin levels name scopes' := by
  induction levels generalizing name scopes scopes' with
  | zero => rw [renderWithin, renderWithin]
  | succ levels ih =>
    cases hg : set.get? name with
    | none => rw [renderWithin_of_get?_eq_none hg, renderWithin_of_get?_eq_none hg]
    | some nodes =>
      rw [renderWithin_of_get? hg, renderWithin_of_get? hg]
      exact renderNodes_agree ih h nodes

/-- Nodes are rendered in a stack of scopes as in the one scope that binds every name as the innermost
scope that binds it, and there is such a scope. An `each` block comes to its body for one item after
the other, each time in the bindings around the block with those of the item over them, and then to
what is behind it in the bindings around the block. -/
theorem renderNodes_flat (set : TemplateSet) (levels : Nat) (template : String) (scopes : Scopes) :
    scopes.flat.Flattens scopes ∧
    ∀ flat : Scope, flat.Flattens scopes →
      (∀ nodes, renderNodes (set.renderWithin levels) template scopes nodes =
        renderNodes (set.renderWithin levels) template [flat] nodes) ∧
      ∀ name items, scopes.get? name = some (.list items) → ∀ body rest,
        renderNodes (set.renderWithin levels) template scopes (.block .each name body :: rest) =
          (Rendering.forEach items fun item =>
            renderNodes (set.renderWithin levels) template [flat.under item] body).andThen
              fun _ => renderNodes (set.renderWithin levels) template [flat] rest := by
  refine ⟨scopes.flattens_flat, fun flat h => ⟨fun nodes => ?_, fun name items hb body rest => ?_⟩⟩
  · exact renderNodes_agree (set.renderWithin_agree levels) h.agree nodes
  · have hitem (item : Scope) :
        renderNodes (set.renderWithin levels) template (item :: scopes) body =
          renderNodes (set.renderWithin levels) template [flat.under item] body :=
      renderNodes_agree (set.renderWithin_agree levels) (h.under item).agree body
    rw [renderNodes, renderNode, hb, renderNodes_agree (set.renderWithin_agree levels) h.agree rest]
    simp only [hitem]

theorem renderNodes_flat_rows :
    let items := [Scope.empty.text "y" "3", Scope.empty.text "x" "4"]
    let scopes :=
      [Scope.empty.text "x" "5", ((Scope.empty.text "x" "1").text "y" "2").list "rows" items]
    let flat := Scopes.flat scopes
    let row := [.text "(", .value "x", .value "y", .text ")"]
    let call := (TemplateSet.mk [("row", row)]).renderWithin 1
    let nodes := [.block .each "rows" [.inclusion "row"], .inclusion "row"]
    flat.Flattens scopes ∧ Scopes.get? scopes "rows" = some (.list items) ∧
    renderNodes call "page" scopes nodes = renderNodes call "page" [flat] nodes ∧
    renderNodes call "page" scopes nodes =
      (Rendering.forEach items fun item =>
        renderNodes call "page" [flat.under item] [.inclusion "row"]).andThen
          (fun _ => renderNodes call "page" [flat] [.inclusion "row"]) ∧
    (renderNodes call "page" scopes nodes).output = "(53)(42)(52)" := by
  intro items scopes flat row call nodes
  obtain ⟨hf, h⟩ := renderNodes_flat ⟨[("row", row)]⟩ 1 "page" scopes
  have hb : Scopes.get? scopes "rows" = some (.list items) := rfl
  exact ⟨hf, hb, (h flat hf).1 nodes, (h flat hf).2 "rows" items hb _ _, by decide +kernel⟩

end TemplateSet

end PointerHelpers.Template
