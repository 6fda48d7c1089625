import Mathlib.Data.List.Perm.Basic
import PointerHelpers.Proofs.Output.Delivery
import PointerHelpers.Proofs.Template.Definitions
import PointerHelpers.Proofs.Template.RelatedRenderings

namespace PointerHelpers.Template

open Output

/-- The second rendering is the first, unless this fault ends the first: then it begins like it. -/
inductive Rendering.KeptUnless (lost : RenderFault) : Rendering → Rendering → Prop where
  | lost (second : Rendering) : KeptUnless lost (.fail lost) second
  | done : KeptUnless lost .done .done
  | fail (fault : RenderFault) : KeptUnless lost (.fail fault) (.fail fault)
  | piece (text : String) {rest rest' : Unit → Rendering}
    (later : KeptUnless lost (rest ()) (rest' ())) :
    KeptUnless lost (.piece text rest) (.piece text rest')

namespace Rendering.KeptUnless

variable {lost : RenderFault} {first second : Rendering}

theorem refl (lost : RenderFault) (rendering : Rendering) :
    rendering.KeptUnless lost rendering := by
  induction rendering with
  | done => exact .done
  | fail fault => exact .fail fault
  | piece text rest ih => exact .piece text (ih ())

theorem andThen (h : first.KeptUnless lost second) {later later' : Unit → Rendering}
    (hl : (later ()).KeptUnless lost (later' ())) :
    (first.andThen later).KeptUnless lost (second.andThen later') := by
  induction h with
  | lost second => exact .lost _
  | done => exact hl
  | fail fault => exact .fail fault
  | piece text _ ih => exact .piece text ih

theorem relates (lost : RenderFault) (template : String) :
    Relates template template (KeptUnless lost) where
  done := .done
  single _ := refl lost _
  unknownValue _ := .fail _
  wrongShape _ _ := .fail _
  andThen h hl := h.andThen hl

theorem deliver_eq (h : first.KeptUnless lost second) (receiver : Receiver)
    (hl : (receiver.deliver first).2 ≠ .error (.rendering lost)) :
    receiver.deliver second = receiver.deliver first := by
  induction h generalizing receiver with
  | lost second => exact absurd rfl hl
  | done => rfl
  | fail fault => rfl
  | piece text _ ih =>
    revert hl
    rw [Receiver.deliver_piece, Receiver.deliver_piece]
    rcases receiver.takeAll (bytes text) with ⟨taken, refusal | next⟩
    · exact fun _ => rfl
    · intro hl
      simp only [ih next hl]

end Rendering.KeptUnless

namespace TemplateSet

theorem renderWithin_keptUnless {set larger : TemplateSet} {name : String}
    (hn : set.get? name = none) (hs : ∀ other, other ≠ name → larger.get? other = set.get? other)
    (levels : Nat) (template : String) (scopes : Scopes) :
    (set.renderWithin levels template scopes).KeptUnless (.unknownTemplate name)
      (larger.renderWithin levels template scopes) := by
  induction levels generalizing template scopes with
  | zero => exact .fail .tooDeep
  | succ levels ih =>
    by_cases ht : template = name
    · -- The larger set may render anything here, as the other fails.
      rw [ht, renderWithin_of_get?_eq_none hn]
      exact .lost _
    · cases hg : set.get? template with
      | none =>
        rw [renderWithin_of_get?_eq_none hg, renderWithin_of_get?_eq_none ((hs _ ht).trans hg)]
        exact .fail _
      | some nodes =>
        rw [renderWithin_of_get? hg, renderWithin_of_get? ((hs _ ht).trans hg)]
        exact related_renderNodes (Rendering.KeptUnless.relates _ template)
          (Scopes.interchanges_eq fun _ => True) rfl nodes
          (fun included _ _ _ hi => hi ▸ ih included _) fun _ _ => trivial

theorem renderWithin_congr {set other : TemplateSet} (h : other.get? = set.get?) (levels : Nat) :
    other.renderWithin levels = set.renderWithin levels := by
  induction levels with
  | zero => rfl
  | succ levels ih =>
    funext name scopes
    rw [renderWithin, renderWithin, h, ih]

def lookupAfter (lookup : String → Option (List Node)) (definition : String × String) :
    String → Option (List Node) :=
  fun name => if name = definition.1 then (lookup name).or (parse definition.2).toOption
    else lookup name

theorem get?_attempt (set : TemplateSet) (definition : String × String) :
    (set.attempt definition).get? = lookupAfter set.get? definition := by
  funext name
  by_cases hk : definition.1 ∈ set.names
  · rw [attempt_of_error (define_eq_duplicate_iff.mpr hk), lookupAfter]
    by_cases hn : name = definition.1
    · obtain ⟨nodes, hg⟩ := Option.ne_none_iff_exists'.mp (mt get?_eq_none_iff.mp (not_not.mpr hk))
      rw [if_pos hn, hn, hg, Option.some_or]
    · rw [if_neg hn]
  · cases hp : parse definition.2 with
    | error mistake =>
      rw [attempt_of_error (define_eq_malformed_iff.mpr ⟨hk, hp⟩), lookupAfter, hp]
      simp [Except.toOption]
    | ok nodes =>
      rw [attempt_of_ok (define_eq_ok_iff.mpr ⟨hk, nodes, hp, rfl⟩), get?_add, lookupAfter, hp]
      by_cases hn : name = definition.1
      · rw [if_pos hn, if_pos hn]
        rfl
      · rw [if_neg hn, if_neg hn, Option.or_none]

theorem get?_after (set : TemplateSet) (definitions : List (String × String)) :
    (set.after definitions).get? = definitions.foldl lookupAfter set.get? := by
  induction definitions generalizing set with
  | nil => rfl
  | cons definition rest ih =>
    rw [List.foldl_cons, ← get?_attempt, ← ih]
    rfl

theorem lookupAfter_comm {first second : String × String} (h : first.1 ≠ second.1)
    (lookup : String → Option (List Node)) :
    lookupAfter (lookupAfter lookup first) second =
      lookupAfter (lookupAfter lookup second) first := by
  funext name
  by_cases hf : name = first.1
  · simp [lookupAfter, hf, h]
  · simp [lookupAfter, hf]

theorem get?_after_perm (set : TemplateSet) {definitions reordered : List (String × String)}
    (hp : definitions.Perm reordered) (hd : (definitions.map Prod.fst).Nodup) :
    (set.after reordered).get? = (set.after definitions).get? := by
  rw [get?_after, get?_after]
  refine (hp.foldl_eq' (fun first hf second hs lookup => ?_) set.get?).symm
  by_cases h : first.1 = second.1
  · rw [List.inj_on_of_nodup_map hd hf hs h]
  · exact lookupAfter_comm h lookup

/-- One more template changes no delivery, to any receiver, that does not end for the lack of it. In
whatever order templates with distinct names are defined, they are rendered alike. -/
theorem render_larger (set : TemplateSet) :
    (∀ name text larger, set.define name text = .ok larger →
      ∀ rendered scope (receiver : Receiver),
        (receiver.deliver (set.render rendered scope)).2 ≠
          .error (.rendering (.unknownTemplate name)) →
        receiver.deliver (larger.render rendered scope) =
          receiver.deliver (set.render rendered scope)) ∧
    ∀ definitions reordered : List (String × String), definitions.Perm reordered →
      (definitions.map Prod.fst).Nodup → ∀ rendered scope,
        (set.after reordered).render rendered scope =
          (set.after definitions).render rendered scope := by
  constructor
  · intro name text larger hd rendered scope receiver hl
    obtain ⟨fresh, nodes, -, rfl⟩ := define_eq_ok_iff.mp hd
    refine (renderWithin_keptUnless (get?_eq_none_iff.mpr fresh) (fun other ho => ?_) _ _ _).deliver_eq
      receiver hl
    rw [get?_add, if_neg ho, Option.or_none]
  · intro definitions reordered hp hd rendered scope
    rw [render, renderWithin_congr (set.get?_after_perm hp hd), render]

theorem render_larger_row :
    let set : TemplateSet := ⟨[("page", [.text "ab", .inclusion "row"])]⟩
    let larger := set.add "row" [.text "c"]
    let receiver : Receiver := ⟨some 1, some 1, .closed⟩
    let definitions := [("row", "c"), ("page", r"ab{{> row}}")]
    set.define "row" "c" = .ok larger ∧
    receiver.deliver (set.render "page" .empty) = ([0x61], .error (.output .closed)) ∧
    receiver.deliver (larger.render "page" .empty) = ([0x61], .error (.output .closed)) ∧
    definitions.Perm definitions.reverse ∧ (definitions.map Prod.fst).Nodup ∧
    (empty.after definitions.reverse).render "page" .empty =
      (empty.after definitions).render "page" .empty ∧
    ((empty.after definitions).render "page" .empty).output = "abc" := by
  intro set larger receiver definitions
  have hd : set.define "row" "c" = .ok larger := define_eq_ok_iff.mpr ⟨by decide, _, rfl, rfl⟩
  have hr : receiver.deliver (set.render "page" .empty) = ([0x61], .error (.output .closed)) := by
    rw [Receiver.deliver_limited (Nat.le_refl 1)]
    decide +kernel
  have hl : receiver.deliver (larger.render "page" .empty) =
      receiver.deliver (set.render "page" .empty) :=
    (render_larger set).1 "row" "c" larger hd "page" .empty receiver (by simp [hr])
  have hp : definitions.Perm definitions.reverse := (List.reverse_perm definitions).symm
  have hn : (definitions.map Prod.fst).Nodup := by decide
  exact ⟨hd, hr, hl.trans hr, hp, hn, (render_larger empty).2 _ _ hp hn "page" .empty,
    by decide +kernel⟩

end TemplateSet

end PointerHelpers.Template
