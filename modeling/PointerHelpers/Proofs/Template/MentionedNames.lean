import PointerHelpers.Proofs.Template.IncludeDepth
import PointerHelpers.Proofs.Template.ScopeEquality

namespace PointerHelpers.Template

/-- Two scopes in which these names are bound alike: in neither, to one text, or to lists whose items
agree one by one. -/
inductive Scope.AgreeOn (names : String → Prop) : Scope → Scope → Prop where
  | intro {scope scope' : Scope}
    (bound : ∀ name, names name →
      Option.Rel (Value.Matches (Scope.AgreeOn names)) (scope.get? name) (scope'.get? name)) :
    Scope.AgreeOn names scope scope'

variable {names : String → Prop}

namespace Scope.AgreeOn

variable {scope scope' : Scope}

theorem empty : Scope.AgreeOn names .empty .empty := ⟨fun _ _ => .none⟩

theorem text (h : scope.AgreeOn names scope') (name : String) {content content' : String}
    (hc : names name → content = content') :
    (scope.text name content).AgreeOn names (scope'.text name content') := by
  obtain ⟨bound⟩ := h
  refine ⟨fun asked hn => rel_get?_text name (fun he => ?_) (bound asked hn)⟩
  rw [hc (he ▸ hn)]
  exact .text content'

theorem list (h : scope.AgreeOn names scope') (name : String) {items items' : List Scope}
    (hi : names name → List.Forall₂ (Scope.AgreeOn names) items items') :
    (scope.list name items).AgreeOn names (scope'.list name items') := by
  obtain ⟨bound⟩ := h
  exact ⟨fun asked hn => rel_get?_list name (fun he => .list (hi (he ▸ hn))) (bound asked hn)⟩

end Scope.AgreeOn

def Scopes.AgreeOn (names : String → Prop) (scopes scopes' : Scopes) : Prop :=
  ∀ name, names name →
    Option.Rel (Value.Matches (Scope.AgreeOn names)) (scopes.get? name) (scopes'.get? name)

theorem Scopes.AgreeOn.cons {scopes scopes' : Scopes} (h : scopes.AgreeOn names scopes')
    {item item' : Scope} (hi : item.AgreeOn names item') :
    AgreeOn names (item :: scopes) (item' :: scopes') := by
  obtain ⟨bound⟩ := hi
  exact fun name hn => rel_get?_cons (bound name hn) (h name hn)

theorem Scopes.interchanges_agreeOn (names : String → Prop) :
    Interchanges names (AgreeOn names) (Scope.AgreeOn names) where
  bound related _ asked := related _ asked
  within related inner := related.cons inner

theorem Scope.agreeOn_of_beq (names : String → Prop) {scope scope' : Scope}
    (h : (scope == scope') = true) : scope.AgreeOn names scope' := by
  -- The scopes may bind in another order, so that the induction is on the items and not the bindings.
  induction scope using item_induction generalizing scope' with
  | step scope ih =>
    refine ⟨fun name _ => ?_⟩
    obtain ⟨hv, hv'⟩ | ⟨value, value', hv, hv', hmatch⟩ :=
      none_or_some_of_rel ((beq_iff scope scope').mp h name)
    · rw [hv, hv']
      exact .none
    · rw [hv, hv']
      cases hmatch with
      | text content => exact .some (.text content)
      | list alike =>
        have hitems := (List.forall₂_and_left _ _).mpr ⟨ih name _ hv, alike⟩
        exact .some (.list (hitems.imp fun item item' hitem => hitem.1 hitem.2))

namespace TemplateSet

/-- A name that a template shows or asks for, or one that it includes, over any number of
includes. -/
def Mentions (set : TemplateSet) (name mentioned : String) : Prop :=
  ∃ length template nodes, set.Walk name length template ∧ set.get? template = some nodes ∧
    mentioned ∈ mentions nodes

variable {set : TemplateSet}

theorem renderWithin_agreeOn {name : String}
    (hn : ∀ mentioned, set.Mentions name mentioned → names mentioned) (levels : Nat)
    {length : Nat} {template : String} (walk : set.Walk name length template)
    {scopes scopes' : Scopes} (h : scopes.AgreeOn names scopes') :
    set.renderWithin levels template scopes = set.renderWithin levels template scopes' := by
  induction levels generalizing length template scopes scopes' with
  | zero => rw [renderWithin, renderWithin]
  | succ levels ih =>
    cases hg : set.get? template with
    | none => rw [renderWithin_of_get?_eq_none hg, renderWithin_of_get?_eq_none hg]
    | some nodes =>
      rw [renderWithin_of_get? hg, renderWithin_of_get? hg]
      exact related_renderNodes (Rendering.relates_eq template) (Scopes.interchanges_agreeOn names) h
        nodes (fun included hm _ _ hi => ih (.step walk ⟨nodes, hg, hm⟩) hi)
        fun mentioned hm => hn mentioned ⟨length, template, nodes, walk, hg, hm⟩

/-- Scopes are rendered alike if they agree on the names that are mentioned in the template and in
those that it includes, and so if they are equal. -/
theorem render_agreeOn (set : TemplateSet) (name : String) (scope scope' : Scope) :
    (scope.AgreeOn (set.Mentions name) scope' → set.render name scope = set.render name scope') ∧
    ((scope == scope') = true → set.render name scope = set.render name scope') := by
  have hagree (h : scope.AgreeOn (set.Mentions name) scope') :
      set.render name scope = set.render name scope' := by
    have hscopes : Scopes.AgreeOn (set.Mentions name) [scope] [scope'] :=
      Scopes.AgreeOn.cons (fun _ _ => .none) h
    exact renderWithin_agreeOn (fun _ hm => hm) (maxDepth + 1) .start hscopes
  exact ⟨hagree, fun h => hagree (Scope.agreeOn_of_beq _ h)⟩

/-- The templates `page` and `row` include each other, and neither mentions the note that differs in
the page and in its rows. The template that mentions it is included by none. -/
theorem render_agreeOn_note :
    let set := TemplateSet.mk
      [("page", [.value "title", .block .each "rows" [.inclusion "row"]]),
        ("row", [.text "-", .value "cell", .block .when "more" [.inclusion "page"]]),
        ("notes", [.value "note", .inclusion "page"])]
    let row (cell note : String) :=
      ((Scope.empty.text "cell" cell).text "more" "").text "note" note
    let page (first second : String) :=
      ((Scope.empty.text "title" "t").text "note" first).list "rows" [row "1" first, row "2" second]
    let turned := ((Scope.empty.text "note" "a").list "rows"
      [row "1" "a", ((Scope.empty.text "note" "b").text "more" "").text "cell" "2"]).text "title" "t"
    (page "a" "b").AgreeOn (set.Mentions "page") (page "b" "c") ∧
    set.render "page" (page "a" "b") = set.render "page" (page "b" "c") ∧
    (page "a" "b" == turned) = true ∧
    set.render "page" (page "a" "b") = set.render "page" turned ∧
    (set.render "page" turned).output = "t-1-2" ∧
    (set.render "notes" (page "a" "b")).output = "at-1-2" := by
  intro set row page turned
  have hwalk {length : Nat} {template : String} (walk : set.Walk "page" length template) :
      template = "page" ∨ template = "row" := by
    induction walk with
    | start => exact .inl rfl
    | step _ edge ih =>
      obtain ⟨nodes, hg, hm⟩ := edge
      obtain rfl | rfl := ih
      · cases hg
        exact .inr (List.mem_singleton.mp hm)
      · cases hg
        exact .inl (List.mem_singleton.mp hm)
  have hnote : ¬ set.Mentions "page" "note" := by
    rintro ⟨length, template, nodes, walk, hg, hm⟩
    obtain rfl | rfl := hwalk walk
    · cases hg
      exact absurd hm (by decide)
    · cases hg
      exact absurd hm (by decide)
  have hrow (cell note note' : String) :
      (row cell note).AgreeOn (set.Mentions "page") (row cell note') :=
    ((Scope.AgreeOn.empty.text "cell" fun _ => rfl).text "more" fun _ => rfl).text "note"
      fun h => absurd h hnote
  have hpage : (page "a" "b").AgreeOn (set.Mentions "page") (page "b" "c") :=
    ((Scope.AgreeOn.empty.text "title" fun _ => rfl).text "note" fun h => absurd h hnote).list "rows"
      fun _ => .cons (hrow "1" "a" "b") (.cons (hrow "2" "b" "c") .nil)
  have hturned : (page "a" "b" == turned) = true := by decide +kernel
  exact ⟨hpage, (render_agreeOn set "page" _ _).1 hpage, hturned,
    (render_agreeOn set "page" _ _).2 hturned, by decide +kernel, by decide +kernel⟩

end TemplateSet

end PointerHelpers.Template
