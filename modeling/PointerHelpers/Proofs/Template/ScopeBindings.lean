import PointerHelpers.Proofs.Template.ScopeEquality

namespace PointerHelpers.Template

theorem forall₂_comp {α : Type} {first second both : α → α → Prop} {items items' items'' : List α}
    (hcomp : ∀ item item' item'', first item item' → second item' item'' → both item item'')
    (h : List.Forall₂ first items items') (h' : List.Forall₂ second items' items'') :
    List.Forall₂ both items items'' := by
  induction h generalizing items'' with
  | nil =>
    cases h'
    exact .nil
  | cons hitem _ ih =>
    cases h' with
    | cons hitem' hrest => exact .cons (hcomp _ _ _ hitem hitem') (ih hrest)

namespace Scope

theorem beq_refl (scope : Scope) : (scope == scope) = true := by
  induction scope using item_induction with
  | step scope ih =>
    refine (beq_iff scope scope).mpr fun name => ?_
    cases hv : scope.get? name with
    | none => exact .none
    | some value =>
      cases value with
      | text content => exact .some (.text content)
      | list items => exact .some (.list (List.forall₂_same.mpr (ih name items hv)))

theorem beq_symm {scope other : Scope} (h : (scope == other) = true) :
    (other == scope) = true := by
  induction scope using item_induction generalizing other with
  | step scope ih =>
    refine (beq_iff other scope).mpr fun name => ?_
    obtain ⟨hv, hv'⟩ | ⟨value, value', hv, hv', hmatch⟩ :=
      none_or_some_of_rel ((beq_iff scope other).mp h name)
    · rw [hv, hv']
      exact .none
    · rw [hv, hv']
      cases hmatch with
      | text content => exact .some (.text content)
      | list alike =>
        have hitems := (List.forall₂_and_left _ _).mpr ⟨ih name _ hv, alike⟩
        exact .some (.list (List.Forall₂.flip (hitems.imp fun _ _ hitem => hitem.1 hitem.2)))

theorem beq_trans {scope other third : Scope} (h : (scope == other) = true)
    (h' : (other == third) = true) : (scope == third) = true := by
  induction scope using item_induction generalizing other third with
  | step scope ih =>
    refine (beq_iff scope third).mpr fun name => ?_
    have hright := (beq_iff other third).mp h' name
    obtain ⟨hv, hv'⟩ | ⟨value, value', hv, hv', hmatch⟩ :=
      none_or_some_of_rel ((beq_iff scope other).mp h name)
    · rw [hv'] at hright
      rw [hv]
      exact hright
    · rw [hv'] at hright
      obtain ⟨hn, -⟩ | ⟨found, value'', hf, hv'', hmatch'⟩ := none_or_some_of_rel hright
      · cases hn
      cases hf
      rw [hv, hv'']
      cases hmatch with
      | text content =>
        cases hmatch'
        exact .some (.text content)
      | list alike =>
        cases hmatch' with
        | list alike' =>
          have hitems := (List.forall₂_and_left _ _).mpr ⟨ih name _ hv, alike⟩
          exact .some (.list (forall₂_comp (fun _ _ _ hitem h => hitem.1 hitem.2 h) hitems alike'))

def bind (scope : Scope) (binding : String × Value) : Scope :=
  match binding.2 with
  | .text content => scope.text binding.1 content
  | .list items => scope.list binding.1 items

def ofBindings (bindings : List (String × Value)) : Scope := bindings.foldl bind .empty

def BoundLast (bindings : List (String × Value)) (name : String) (value : Value) : Prop :=
  ∃ earlier later, bindings = earlier ++ (name, value) :: later ∧ name ∉ later.map Prod.fst

theorem get?_bind (scope : Scope) (binding : String × Value) (name : String) :
    (scope.bind binding).get? name =
      if binding.1 = name then some binding.2 else scope.get? name := by
  obtain ⟨bound, value⟩ := binding
  cases value <;> rfl

theorem get?_foldl_bind {later : List (String × Value)} {name : String}
    (h : name ∉ later.map Prod.fst) (scope : Scope) :
    (later.foldl bind scope).get? name = scope.get? name := by
  induction later generalizing scope with
  | nil => rfl
  | cons binding later ih =>
    rw [List.map_cons, List.mem_cons, not_or] at h
    rw [List.foldl_cons, ih h.2, get?_bind, if_neg (Ne.symm h.1)]

theorem get?_ofBindings_of_boundLast {bindings : List (String × Value)} {name : String}
    {value : Value} (h : BoundLast bindings name value) :
    (ofBindings bindings).get? name = some value := by
  obtain ⟨earlier, later, rfl, hn⟩ := h
  rw [ofBindings, List.foldl_append, List.foldl_cons, get?_foldl_bind hn, get?_bind, if_pos rfl]

theorem exists_boundLast {bindings : List (String × Value)} {name : String}
    (h : name ∈ bindings.map Prod.fst) : ∃ value, BoundLast bindings name value := by
  induction bindings with
  | nil => cases h
  | cons binding bindings ih =>
    by_cases hl : name ∈ bindings.map Prod.fst
    · obtain ⟨value, earlier, later, rfl, hn⟩ := ih hl
      exact ⟨value, binding :: earlier, later, rfl, hn⟩
    · rw [List.map_cons, List.mem_cons] at h
      obtain rfl := h.resolve_right hl
      exact ⟨binding.2, [], bindings, rfl, hl⟩

theorem get?_ofBindings_eq_none_iff (bindings : List (String × Value)) (name : String) :
    (ofBindings bindings).get? name = none ↔ name ∉ bindings.map Prod.fst := by
  constructor
  · intro h hm
    obtain ⟨value, hv⟩ := exists_boundLast hm
    cases h.symm.trans (get?_ofBindings_of_boundLast hv)
  · intro h
    rw [ofBindings, get?_foldl_bind h, get?]

theorem get?_ofBindings_eq_some_iff (bindings : List (String × Value)) (name : String)
    (value : Value) :
    (ofBindings bindings).get? name = some value ↔ BoundLast bindings name value := by
  refine ⟨fun h => ?_, get?_ofBindings_of_boundLast⟩
  have hm : name ∈ bindings.map Prod.fst := by
    by_contra hn
    cases h.symm.trans ((get?_ofBindings_eq_none_iff bindings name).mpr hn)
  obtain ⟨found, hf⟩ := exists_boundLast hm
  cases h.symm.trans (get?_ofBindings_of_boundLast hf)
  exact hf

/-- Equality of scopes is an equivalence, and two sequences of bindings build equal scopes exactly
when each name is bound by neither of them, or is bound last to the same text or to lists of the same
length with equal items at equal places. A look-up gives what is bound last. -/
theorem beq_ofBindings_iff :
    Equivalence (fun scope other : Scope => (scope == other) = true) ∧
    (∀ bindings bindings' : List (String × Value),
      (ofBindings bindings == ofBindings bindings') = true ↔
        ∀ name, name ∉ bindings.map Prod.fst ∧ name ∉ bindings'.map Prod.fst ∨
          ∃ value value', BoundLast bindings name value ∧ BoundLast bindings' name value' ∧
            value.Matches (· == ·) value') ∧
    ∀ bindings name, (∀ value,
      (ofBindings bindings).get? name = some value ↔ BoundLast bindings name value) ∧
      ((ofBindings bindings).get? name = none ↔ name ∉ bindings.map Prod.fst) := by
  refine ⟨⟨beq_refl, beq_symm, beq_trans⟩, fun bindings bindings' => ?_, fun bindings name =>
    ⟨get?_ofBindings_eq_some_iff bindings name, get?_ofBindings_eq_none_iff bindings name⟩⟩
  rw [beq_iff]
  refine forall_congr' fun name => ?_
  rw [← get?_ofBindings_eq_none_iff, ← get?_ofBindings_eq_none_iff]
  simp only [← get?_ofBindings_eq_some_iff]
  constructor
  · exact none_or_some_of_rel
  · rintro (⟨hv, hv'⟩ | ⟨value, value', hv, hv', hmatch⟩)
    · rw [hv, hv']
      exact .none
    · rw [hv, hv']
      exact .some hmatch

end Scope

end PointerHelpers.Template
