import PointerHelpers.Proofs.Template.RelatedRenderings

namespace PointerHelpers.Template

def Rendering.KeptBy (first second : Rendering) : Prop := first.fault = none → second = first

namespace Rendering.KeptBy

variable {first second third : Rendering}

theorem refl (rendering : Rendering) : rendering.KeptBy rendering := fun _ => rfl

theorem of_fail (fault : RenderFault) (second : Rendering) :
    (Rendering.fail fault).KeptBy second := by
  intro h
  cases h

theorem trans (h : first.KeptBy second) (hl : second.KeptBy third) : first.KeptBy third := by
  intro hf
  have hs : second = first := h hf
  rw [hl (hs ▸ hf), hs]

theorem andThen {later later' : Unit → Rendering} (h : first.KeptBy second)
    (hl : (later ()).KeptBy (later' ())) :
    (first.andThen later).KeptBy (second.andThen later') := by
  intro hf
  rw [fault_andThen, Option.or_eq_none_iff] at hf
  rw [h hf.1, show later' = later from funext fun _ => hl hf.2]

theorem relates (template template' : String) : Relates template template' KeptBy where
  done := refl _
  single _ := refl _
  unknownValue _ := of_fail _ _
  wrongShape _ _ := of_fail _ _
  andThen := andThen

end Rendering.KeptBy

open Rendering

variable {call call' : String → Scopes → Rendering} {template template' : String}

theorem renderNodes_append (scopes : Scopes) (nodes later : List Node) :
    renderNodes call template scopes (nodes ++ later) =
      (renderNodes call template scopes nodes).andThen fun _ =>
        renderNodes call template scopes later := by
  induction nodes with
  | nil =>
    rw [List.nil_append, renderNodes, andThen]
  | cons node rest ih => rw [List.cons_append, renderNodes, renderNodes, ih, andThen_assoc]

theorem renderNodes_keptBy (hc : ∀ name scopes, (call name scopes).KeptBy (call' name scopes))
    (scopes : Scopes) (nodes : List Node) :
    (renderNodes call template scopes nodes).KeptBy (renderNodes call' template' scopes nodes) :=
  related_renderNodes (KeptBy.relates template template') (Scopes.interchanges_eq fun _ => True) rfl
    nodes (fun included _ _ _ hi => hi ▸ hc included _) fun _ _ => trivial

theorem renderNode_keptBy (hc : ∀ name scopes, (call name scopes).KeptBy (call' name scopes))
    (scopes : Scopes) (node : Node) :
    (renderNode call template scopes node).KeptBy (renderNode call' template' scopes node) :=
  related_renderNode (KeptBy.relates template template') (Scopes.interchanges_eq fun _ => True) rfl
    node (fun included _ _ _ hi => hi ▸ hc included _) fun _ _ => trivial

/-- The second nodes are the first, with some of the includes of one template replaced by its nodes,
also within blocks. -/
inductive Inlines (included : String) (body : List Node) : List Node → List Node → Prop where
  | nil : Inlines included body [] []
  | keep (node : Node) {rest rest' : List Node} (later : Inlines included body rest rest') :
    Inlines included body (node :: rest) (node :: rest')
  | replace {rest rest' : List Node} (later : Inlines included body rest rest') :
    Inlines included body (.inclusion included :: rest) (body ++ rest')
  | within (kind : Block) (name : String) {inner inner' rest rest' : List Node}
    (block : Inlines included body inner inner') (later : Inlines included body rest rest') :
    Inlines included body (.block kind name inner :: rest) (.block kind name inner' :: rest')

theorem renderNodes_inlines {included : String} {body nodes nodes' : List Node}
    (hc : ∀ name scopes, (call name scopes).KeptBy (call' name scopes))
    (hb : ∀ scopes, (call included scopes).KeptBy (renderNodes call' template' scopes body))
    (h : Inlines included body nodes nodes') (scopes : Scopes) :
    (renderNodes call template scopes nodes).KeptBy
      (renderNodes call' template' scopes nodes') := by
  induction h generalizing scopes with
  | nil => exact .refl _
  | keep node _ ih => exact (renderNode_keptBy hc scopes node).andThen (ih scopes)
  | replace _ ih =>
    rw [renderNodes_append]
    exact (hb scopes).andThen (ih scopes)
  | within kind name _ _ inner later =>
    exact (related_renderNode_block (KeptBy.relates template template')
      (Scopes.interchanges_eq fun _ => True) rfl kind trivial
      fun hi => hi ▸ inner _).andThen (later scopes)

namespace TemplateSet

def revise (set : TemplateSet) (name : String) (nodes : List Node) : TemplateSet :=
  ⟨set.templates.map fun entry => (entry.1, if entry.1 = name then nodes else entry.2)⟩

theorem get?_revise (set : TemplateSet) (name other : String) (nodes : List Node) :
    (set.revise name nodes).get? other =
      if other = name then (set.get? other).map fun _ => nodes else set.get? other := by
  obtain ⟨templates⟩ := set
  simp only [get?, revise]
  induction templates with
  | nil => simp
  | cons entry rest ih =>
    rw [List.map_cons, List.lookup_cons, List.lookup_cons, ih]
    by_cases ho : other = entry.1
    · by_cases hn : other = name
      · simp [← ho, hn]
      · simp [← ho, hn]
    · rw [beq_eq_false_iff_ne.mpr ho]

/-- What is rendered without a fault is rendered alike where more templates may be nested. -/
theorem renderWithin_keptBy_succ (set : TemplateSet) (levels : Nat) (name : String)
    (scopes : Scopes) :
    (set.renderWithin levels name scopes).KeptBy (set.renderWithin (levels + 1) name scopes) := by
  induction levels generalizing name scopes with
  | zero => exact .of_fail _ _
  | succ levels ih =>
    cases hg : set.get? name with
    | none =>
      rw [renderWithin_of_get?_eq_none hg]
      exact .of_fail _ _
    | some nodes =>
      rw [renderWithin_of_get? hg, renderWithin_of_get? hg]
      exact renderNodes_keptBy ih scopes nodes

/-- The same holds of a set with an include replaced, level by level: below the replaced include
there is one level more than there was. -/
theorem renderWithin_revise {set : TemplateSet} {template included : String}
    {nodes nodes' body : List Node} (ht : set.get? template = some nodes)
    (hi : set.get? included = some body) (h : Inlines included body nodes nodes') (levels : Nat)
    (name : String) (scopes : Scopes) :
    (set.renderWithin levels name scopes).KeptBy
      ((set.revise template nodes').renderWithin levels name scopes) := by
  induction levels generalizing name scopes with
  | zero => exact .refl _
  | succ levels ih =>
    have hg := get?_revise set template name nodes'
    by_cases hn : name = template
    · rw [if_pos hn, hn, ht, Option.map_some] at hg
      rw [hn, renderWithin_of_get? ht, renderWithin_of_get? hg]
      refine renderNodes_inlines ih (fun scopes => ?_) h scopes
      -- The nodes stood one level below their include, and now have that level to spare.
      cases levels with
      | zero => exact .of_fail _ _
      | succ levels =>
        rw [renderWithin_of_get? hi]
        exact renderNodes_keptBy
          (fun name scopes => (set.renderWithin_keptBy_succ levels name scopes).trans
            (ih name scopes)) scopes body
    · rw [if_neg hn] at hg
      cases hs : set.get? name with
      | none =>
        rw [renderWithin_of_get?_eq_none hs]
        exact .of_fail _ _
      | some other =>
        rw [renderWithin_of_get? hs, renderWithin_of_get? (hg.trans hs)]
        exact renderNodes_keptBy ih scopes other

/-- Includes of one template at any places of another, or of itself, are replaced by the nodes of the
included one. Whatever could be rendered without a fault is rendered as it was. -/
theorem render_inlined {set : TemplateSet} {template included : String}
    {nodes nodes' body : List Node} (ht : set.get? template = some nodes)
    (hi : set.get? included = some body) (h : Inlines included body nodes nodes') (name : String)
    (scope : Scope) (hf : (set.render name scope).fault = none) :
    (set.revise template nodes').render name scope = set.render name scope :=
  renderWithin_revise ht hi h (maxDepth + 1) name [scope] hf

theorem render_inlined_recursive :
    let leaf := Scope.empty.list "children" []
    let scope := (Scope.empty.text "title" "t").list "children" [leaf, leaf.list "children" [leaf]]
    let nodes := [.text "(", .block .each "children" [.inclusion "tree"], .text ")"]
    let nodes' := [.text "(", .block .each "children" nodes, .text ")"]
    let set : TemplateSet := ⟨[("page", [.value "title", .inclusion "tree"]), ("tree", nodes)]⟩
    set.get? "tree" = some nodes ∧
    Inlines "tree" nodes nodes nodes' ∧
    (set.render "page" scope).fault = none ∧
    (set.revise "tree" nodes').render "page" scope = set.render "page" scope ∧
    (set.render "page" scope).output = "t(()(()))" := by
  intro leaf scope nodes nodes' set
  have hg : set.get? "tree" = some nodes := by rfl
  have hi : Inlines "tree" nodes nodes nodes' :=
    .keep _ (.within .each "children" (.replace .nil) (.keep _ .nil))
  have hf : (set.render "page" scope).fault = none := by decide +kernel
  exact ⟨hg, hi, hf, render_inlined hg hg hi "page" scope hf, by decide +kernel⟩

end TemplateSet

end PointerHelpers.Template
