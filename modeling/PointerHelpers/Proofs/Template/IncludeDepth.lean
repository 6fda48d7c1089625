import Mathlib.Data.Set.Defs
import PointerHelpers.Proofs.Output.Delivery
import PointerHelpers.Proofs.Template.Faults

namespace PointerHelpers.Template

open Output

variable {included : String} {inner : Scopes} {fault : RenderFault}

namespace TemplateSet

variable (set : TemplateSet)

def Includes (template included : String) : Prop :=
  ∃ nodes, set.get? template = some nodes ∧ included ∈ inclusions nodes

inductive Walk (first : String) : Nat → String → Prop where
  | start : Walk first 0 first
  | step {length : Nat} {last next : String} (walk : Walk first length last)
    (edge : set.Includes last next) : Walk first (length + 1) next

/-- Rendering a template in a scope enters templates: the first at depth 0, and where the depth is
within the limit, those that the nodes of an entered template come to at the next depth. -/
inductive Enters (name : String) (scope : Scope) : Nat → String → Scopes → Prop where
  | start : Enters name scope 0 name [scope]
  | nested {depth : Nat} {template included : String} {scopes inner : Scopes} {nodes : List Node}
    (outer : Enters name scope depth template scopes) (legal : depth ≤ maxDepth)
    (found : set.get? template = some nodes)
    (comes : ComesTo (set.renderWithin (maxDepth - depth)) template included inner scopes nodes) :
    Enters name scope (depth + 1) included inner

/-- What entering a template at some depth comes to, without a bound on the steps: the depth is
checked first, then the name, and then the nodes are rendered with the includes one deeper. -/
inductive Evaluates : Nat → String → Scopes → Rendering → Prop where
  | tooDeep {depth : Nat} {name : String} {scopes : Scopes} (deep : maxDepth < depth) :
    Evaluates depth name scopes (.fail .tooDeep)
  | missing {depth : Nat} {name : String} {scopes : Scopes} (legal : depth ≤ maxDepth)
    (absent : set.get? name = none) : Evaluates depth name scopes (.fail (.unknownTemplate name))
  | found {depth : Nat} {name : String} {scopes : Scopes} {nodes : List Node}
    (legal : depth ≤ maxDepth) (found : set.get? name = some nodes)
    (call : String → Scopes → Rendering)
    (nested : ∀ included inner, Evaluates (depth + 1) included inner (call included inner)) :
    Evaluates depth name scopes (renderNodes call name scopes nodes)

/-- Each of these templates is defined and includes one of them outside its blocks. -/
def IncludesItself (members : Set String) : Prop :=
  ∀ member ∈ members, ∃ nodes, set.get? member = some nodes ∧
    ∃ next ∈ members, Node.inclusion next ∈ nodes

variable {set} {name : String} {scope : Scope}

theorem Enters.walk {depth : Nat} (h : set.Enters name scope depth included inner) :
    set.Walk name depth included := by
  induction h with
  | start => exact .start
  | nested _ _ found comes ih => exact .step ih ⟨_, found, comes.mem_inclusions⟩

theorem Enters.fault_eq {depth : Nat} (h : set.Enters name scope depth included inner)
    (hf : (set.renderWithin (maxDepth + 1 - depth) included inner).fault = some fault) :
    (set.render name scope).fault = some fault := by
  induction h with
  | start => exact hf
  | nested _ legal found comes ih =>
    rw [Nat.add_sub_add_right] at hf
    apply ih
    rw [Nat.sub_add_comm legal, renderWithin_of_get? found]
    exact comes.fault_eq hf

theorem Enters.deepens {depth : Nat} (h : set.Enters name scope depth included inner) :
    inner.Deepens [scope] := by
  induction h with
  | start => exact .here
  | nested _ _ _ comes ih => exact comes.deepens.trans ih

inductive FailsAt (set : TemplateSet) (fault : RenderFault) : Nat → String → Scopes → Prop where
  | tooDeep {template : String} {scopes : Scopes} (deep : fault = .tooDeep) :
    FailsAt set fault (maxDepth + 1) template scopes
  | unknownTemplate {depth : Nat} {template : String} {scopes : Scopes}
    (absent : set.get? template = none) (unknown : fault = .unknownTemplate template) :
    FailsAt set fault depth template scopes
  | atNode {depth : Nat} {template : String} {scopes inner : Scopes} {nodes : List Node}
    {part : Node} (found : set.get? template = some nodes) (mem : part ∈ parts nodes)
    (deeper : inner.Deepens scopes) (fails : part.Fails template inner fault) :
    FailsAt set fault depth template scopes

/-- Run: a template that is entered and fails does so itself, or enters one that does. -/
theorem exists_failsAt {depth levels : Nat} (hd : depth + levels = maxDepth + 1)
    {template : String} {scopes : Scopes} (henters : set.Enters name scope depth template scopes)
    (hf : (set.renderWithin levels template scopes).fault = some fault) :
    ∃ last template inner, set.Enters name scope last template inner ∧
      set.FailsAt fault last template inner := by
  induction levels generalizing depth template scopes with
  | zero =>
    cases hf
    rw [Nat.add_zero] at hd
    subst hd
    exact ⟨_, _, _, henters, .tooDeep rfl⟩
  | succ levels ih =>
    have hlegal : depth ≤ maxDepth := by omega
    have hlevels : maxDepth - depth = levels := by omega
    cases hg : set.get? template with
    | none =>
      rw [renderWithin_of_get?_eq_none hg] at hf
      cases hf
      exact ⟨_, _, _, henters, .unknownTemplate hg rfl⟩
    | some nodes =>
      rw [renderWithin_of_get? hg] at hf
      cases arises_of_renderNodes scopes nodes hf with
      | atNode mem deeper fails => exact ⟨_, _, _, henters, .atNode hg mem deeper fails⟩
      | atInclude hc comes =>
        exact ih (by omega) (henters.nested hlegal hg (by rwa [hlevels])) hc

theorem exists_failsAt_of_render (hf : (set.render name scope).fault = some fault) :
    ∃ depth template inner, set.Enters name scope depth template inner ∧
      set.FailsAt fault depth template inner :=
  exists_failsAt (Nat.zero_add _) .start hf

theorem fault_eq_tooDeep_iff :
    (set.render name scope).fault = some .tooDeep ↔
      ∃ included inner, set.Enters name scope (maxDepth + 1) included inner := by
  constructor
  · intro h
    obtain ⟨depth, template, inner, henters, hfails⟩ := exists_failsAt_of_render h
    cases hfails with
    | tooDeep _ => exact ⟨template, inner, henters⟩
    | unknownTemplate _ unknown => cases unknown
    | atNode _ _ _ fails => cases fails
  · rintro ⟨included, inner, henters⟩
    apply henters.fault_eq
    rw [Nat.sub_self]
    rfl

theorem evaluates_iff {levels depth : Nat} (hd : depth + levels = maxDepth + 1)
    (rendering : Rendering) :
    set.Evaluates depth name scopes rendering ↔
      rendering = set.renderWithin levels name scopes := by
  -- The sum of the depth and of the levels that are left is the same at every include.
  induction levels generalizing depth name scopes rendering with
  | zero =>
    have hdeep : maxDepth < depth := by omega
    constructor
    · rintro (_ | ⟨legal, _⟩ | ⟨legal, _⟩)
      · rfl
      · omega
      · omega
    · rintro rfl
      exact .tooDeep hdeep
  | succ levels ih =>
    have hlegal : depth ≤ maxDepth := by omega
    have hnext : depth + 1 + levels = maxDepth + 1 := by omega
    constructor
    · rintro (deep | ⟨_, absent⟩ | ⟨_, found, call, nested⟩)
      · omega
      · rw [renderWithin_of_get?_eq_none absent]
      · have hcall : call = set.renderWithin levels :=
          funext fun included => funext fun inner => (ih hnext _).mp (nested included inner)
        rw [renderWithin_of_get? found, hcall]
    · rintro rfl
      cases hg : set.get? name with
      | none =>
        rw [renderWithin_of_get?_eq_none hg]
        exact .missing hlegal hg
      | some nodes =>
        rw [renderWithin_of_get? hg]
        exact .found hlegal hg _ fun included inner => (ih hnext _).mpr rfl

theorem IncludesItself.fault_ne_none {members : Set String} (h : set.IncludesItself members)
    (levels : Nat) (hn : name ∈ members) (scopes : Scopes) :
    (set.renderWithin levels name scopes).fault ≠ none := by
  induction levels generalizing name scopes with
  | zero => simp [renderWithin, Rendering.fault]
  | succ levels ih =>
    obtain ⟨nodes, hg, next, hm, hi⟩ := h name hn
    rw [renderWithin_of_get? hg]
    intro hf
    have hnext := fault_renderNode_eq_none hf _ hi
    rw [renderNode] at hnext
    exact ih hm scopes hnext

/-- Rendering ends. It fails for its depth exactly when it enters a template by 33 nested includes,
whether or not that is defined, and so never where no walk along includes is longer than 32. What
includes itself outside blocks is never rendered whole, whatever receives it. -/
theorem render_cut_at_limit (set : TemplateSet) (name : String) (scope : Scope) :
    let rendering := set.render name scope
    (∀ other, set.Evaluates 0 name [scope] other ↔ other = rendering) ∧
    (rendering.fault = some .tooDeep ↔
      ∃ last inner, set.Enters name scope 33 last inner) ∧
    (∀ receiver : Receiver, (receiver.deliver rendering).2 = .error (.rendering .tooDeep) →
      ∃ last, set.Walk name 33 last) ∧
    ((∀ length last, set.Walk name length last → length ≤ 32) →
      ∀ receiver : Receiver, (receiver.deliver rendering).2 ≠ .error (.rendering .tooDeep)) ∧
    ∀ members, set.IncludesItself members → name ∈ members →
      ∀ receiver : Receiver, (receiver.deliver rendering).2 ≠ .ok () := by
  intro rendering
  have hwalk (receiver : Receiver)
      (h : (receiver.deliver rendering).2 = .error (.rendering .tooDeep)) :
      ∃ last, set.Walk name 33 last := by
    obtain ⟨last, inner, henters⟩ := fault_eq_tooDeep_iff.mp (receiver.fault_of_deliver h)
    exact ⟨last, henters.walk⟩
  refine ⟨evaluates_iff (Nat.zero_add _), fault_eq_tooDeep_iff, hwalk, fun hshort receiver h => ?_,
    fun members hm hn receiver h => ?_⟩
  · obtain ⟨last, walk⟩ := hwalk receiver h
    exact absurd (hshort 33 last walk) (by decide)
  · exact hm.fault_ne_none (maxDepth + 1) hn [scope] (receiver.fault_eq_none_of_deliver h)

theorem render_cut_at_limit_cycle :
    let set : TemplateSet := ⟨[("even", [.text "0", .inclusion "odd"]),
      ("odd", [.block .when "more" [.text "1"], .inclusion "even"])]⟩
    let scope := Scope.empty.text "more" "yes"
    set.IncludesItself {"even", "odd"} ∧
    (set.render "even" scope).fault = some .tooDeep ∧
    (∃ last, set.Walk "even" 33 last) ∧
    ∀ receiver : Receiver, (receiver.deliver (set.render "even" scope)).2 ≠ .ok () := by
  intro set scope
  have hm : set.IncludesItself {"even", "odd"} := by
    rintro member (rfl | rfl)
    · exact ⟨_, rfl, "odd", .inr rfl, by simp⟩
    · exact ⟨_, rfl, "even", .inl rfl, by simp⟩
  have hf : (set.render "even" scope).fault = some .tooDeep := by decide +kernel
  obtain ⟨-, -, hwalk, -, hnever⟩ := render_cut_at_limit set "even" scope
  exact ⟨hm, hf, hwalk .unlimited (by rw [Receiver.deliver_unlimited, ending, hf]),
    hnever _ hm (.inl rfl)⟩

/-- A chain of includes whose last name is not defined: the depth is checked before the name. -/
example :
    let chain (length : Nat) : TemplateSet :=
      ⟨(List.range length).map fun i => (toString i, [.inclusion (toString (i + 1))])⟩
    ((chain 32).render "0" .empty).fault = some (.unknownTemplate "32") ∧
    ((chain 33).render "0" .empty).fault = some .tooDeep := by
  decide +kernel

end TemplateSet

end PointerHelpers.Template
