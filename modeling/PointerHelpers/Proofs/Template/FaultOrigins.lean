import PointerHelpers.Proofs.Template.IncludeDepth

namespace PointerHelpers.Template

open Output

inductive Scope.Nests (root : Scope) : Scope → Prop where
  | self : Nests root root
  | item {outer item : Scope} {name : String} {items : List Scope} (nested : Nests root outer)
    (bound : outer.get? name = some (.list items)) (mem : item ∈ items) : Nests root item

theorem Scopes.exists_of_get? {scopes : Scopes} {name : String} {value : Value}
    (h : scopes.get? name = some value) : ∃ scope ∈ scopes, scope.get? name = some value :=
  List.exists_of_findSome?_eq_some h

theorem Scopes.get?_eq_none_of_mem {scopes : Scopes} {name : String} (h : scopes.get? name = none)
    {scope : Scope} (hm : scope ∈ scopes) : scope.get? name = none :=
  List.findSome?_eq_none_iff.mp h scope hm

namespace Scopes.Deepens

variable {inner scopes : Scopes}

theorem mem (h : inner.Deepens scopes) {scope : Scope} (hm : scope ∈ scopes) : scope ∈ inner := by
  induction h with
  | here => exact hm
  | inItem _ _ _ ih => exact ih (List.mem_cons_of_mem _ hm)

theorem nests (h : inner.Deepens scopes) {root : Scope} (hs : ∀ scope ∈ scopes, root.Nests scope) :
    ∀ scope ∈ inner, root.Nests scope := by
  induction h with
  | here => exact hs
  | inItem bound mem _ ih =>
    apply ih
    obtain ⟨outer, ho, hb⟩ := exists_of_get? bound
    exact List.forall_mem_cons.mpr ⟨.item (hs outer ho) hb mem, hs⟩

end Scopes.Deepens

namespace TemplateSet

variable {set : TemplateSet} {name : String} {scope : Scope} {fault : RenderFault}

def Reaches (set : TemplateSet) (first template : String) : Prop :=
  ∃ length, set.Walk first length template

def ReachesNode (set : TemplateSet) (first template : String) (node : Node) : Prop :=
  set.Reaches first template ∧ ∃ nodes, set.get? template = some nodes ∧ node ∈ parts nodes

/-- What a fault says of the templates and of the scope that is rendered. -/
def Explains (set : TemplateSet) (name : String) (scope : Scope) : RenderFault → Prop
  | .unknownTemplate missing =>
    set.get? missing = none ∧
      (missing = name ∨ ∃ template, set.ReachesNode name template (.inclusion missing))
  | .unknownValue template value =>
    (set.ReachesNode name template (.value value) ∨
      ∃ kind body, set.ReachesNode name template (.block kind value body)) ∧
    scope.get? value = none
  | .wrongShape template value .text =>
    set.ReachesNode name template (.value value) ∧
      ∃ inner items, scope.Nests inner ∧ inner.get? value = some (.list items)
  | .wrongShape template value .list =>
    (∃ body, set.ReachesNode name template (.block .each value body)) ∧
      ∃ inner content, scope.Nests inner ∧ inner.get? value = some (.text content)
  | .tooDeep => ∃ last, set.Walk name (maxDepth + 1) last

theorem exists_nests_of_get? {inner : Scopes} (h : inner.Deepens [scope]) {value : String}
    {found : Value} (hv : inner.get? value = some found) :
    ∃ outer, scope.Nests outer ∧ outer.get? value = some found := by
  obtain ⟨outer, hm, ho⟩ := Scopes.exists_of_get? hv
  have hroot : ∀ known ∈ [scope], scope.Nests known := by simpa using Scope.Nests.self
  exact ⟨outer, h.nests hroot outer hm, ho⟩

theorem explains_of_fails {template : String} {part : Node} {inner : Scopes}
    (hr : set.ReachesNode name template part) (hd : inner.Deepens [scope])
    (h : part.Fails template inner fault) : set.Explains name scope fault := by
  cases h with
  | unbound unbound =>
    exact ⟨.inl hr, Scopes.get?_eq_none_of_mem unbound (hd.mem (List.mem_singleton_self scope))⟩
  | unboundBlock kind body unbound =>
    exact ⟨.inr ⟨kind, body, hr⟩,
      Scopes.get?_eq_none_of_mem unbound (hd.mem (List.mem_singleton_self scope))⟩
  | listShown bound =>
    obtain ⟨outer, hn, ho⟩ := exists_nests_of_get? hd bound
    exact ⟨hr, outer, _, hn, ho⟩
  | textRepeated body bound =>
    obtain ⟨outer, hn, ho⟩ := exists_nests_of_get? hd bound
    exact ⟨⟨body, hr⟩, outer, _, hn, ho⟩

theorem eq_or_exists_of_walk {length : Nat} {last : String} (walk : set.Walk name length last) :
    last = name ∨ ∃ template, set.ReachesNode name template (.inclusion last) := by
  cases walk with
  | start => exact .inl rfl
  | step walk edge =>
    obtain ⟨nodes, hg, hm⟩ := edge
    exact .inr ⟨_, ⟨_, walk⟩, nodes, hg, (mem_inclusions_iff last nodes).mp hm⟩

theorem explains_of_fault (h : (set.render name scope).fault = some fault) :
    set.Explains name scope fault := by
  obtain ⟨depth, template, inner, henters, hfails⟩ := exists_failsAt_of_render h
  have hreach : set.Reaches name template := ⟨depth, henters.walk⟩
  cases hfails with
  | tooDeep deep =>
    subst deep
    exact ⟨template, henters.walk⟩
  | unknownTemplate absent unknown =>
    subst unknown
    exact ⟨absent, eq_or_exists_of_walk henters.walk⟩
  | atNode found mem deeper fails =>
    exact explains_of_fails ⟨hreach, _, found, mem⟩ (deeper.trans henters.deepens) fails

/-- A rendering that fails for a receiver which takes everything fails by a fault of its own, and
what the fault says of templates and values is so. -/
theorem render_blames (set : TemplateSet) (name : String) (scope : Scope) {receiver : Receiver}
    (hl : receiver.limit = none) (hc : receiver.chunk ≠ some 0) {error : DeliveryError Refusal}
    (h : (receiver.deliver (set.render name scope)).2 = .error error) :
    ∃ fault, error = .rendering fault ∧ set.Explains name scope fault := by
  obtain ⟨limit, chunk, refusal⟩ := receiver
  obtain rfl : limit = none := hl
  rw [Receiver.deliver_unbounded hc, ending] at h
  cases hf : (set.render name scope).fault with
  | none =>
    rw [hf] at h
    cases h
  | some fault =>
    rw [hf] at h
    cases h
    exact ⟨fault, rfl, explains_of_fault hf⟩

/-- A row has a list in place of the text that the page has under the same name. It fails in the
template of the row, within the block for the cells, where nothing is bound to the name again. -/
theorem render_blames_row :
    let set : TemplateSet := ⟨[("page", [.value "cells", .block .each "rows" [.inclusion "row"]]),
      ("row", [.block .each "cells" [.text "|", .value "cells"]])]⟩
    let cell := Scope.empty.text "content" "1"
    let scope := (Scope.empty.text "cells" "all").list "rows" [Scope.empty.list "cells" [cell]]
    let receiver : Receiver := ⟨none, some 2, .closed⟩
    let fault := RenderFault.wrongShape "row" "cells" .text
    receiver.limit = none ∧ receiver.chunk ≠ some 0 ∧
    receiver.deliver (set.render "page" scope) = (bytes "all|", .error (.rendering fault)) ∧
    set.Explains "page" scope fault := by
  intro set cell scope receiver fault
  have hc : receiver.chunk ≠ some 0 := by decide
  have hd : receiver.deliver (set.render "page" scope) =
      (bytes "all|", .error (.rendering fault)) := by
    rw [Receiver.deliver_unbounded hc]
    decide +kernel
  obtain ⟨told, he, hexplains⟩ := render_blames set "page" scope rfl hc (congrArg Prod.snd hd)
  cases he
  exact ⟨rfl, hc, hd, hexplains⟩

end TemplateSet

end PointerHelpers.Template
