import PointerHelpers.Proofs.Template.Execution
import PointerHelpers.Proofs.Template.FlatScope

namespace PointerHelpers.Template

mutual

/-- Two values of one kind: texts that are both empty or both not, or lists with items of one shape. -/
inductive Value.SameShape : Value → Value → Prop where
  | text {content content' : String} (alike : content = "" ↔ content' = "") :
    Value.SameShape (.text content) (.text content')
  | list {items items' : List Scope} (alike : List.Forall₂ Scope.SameShape items items') :
    Value.SameShape (.list items) (.list items')

inductive Scope.SameShape : Scope → Scope → Prop where
  | intro {scope scope' : Scope}
    (bound : ∀ name, Option.Rel Value.SameShape (scope.get? name) (scope'.get? name)) :
    Scope.SameShape scope scope'

end

theorem Value.SameShape.isPresent_eq {value value' : Value} (h : value.SameShape value') :
    value.isPresent = value'.isPresent := by
  cases h with
  | text alike => rw [isPresent, isPresent, Bool.eq_iff_iff, bne_iff_ne, bne_iff_ne, ne_eq, alike]
  | list alike => cases alike <;> rfl

namespace Scope.SameShape

variable {scope scope' : Scope}

theorem empty : Scope.SameShape .empty .empty := ⟨fun _ => .none⟩

theorem text (h : scope.SameShape scope') (name : String) {content content' : String}
    (hc : content = "" ↔ content' = "") :
    (scope.text name content).SameShape (scope'.text name content') := by
  obtain ⟨bound⟩ := h
  exact ⟨fun asked => rel_get?_text name (fun _ => .text hc) (bound asked)⟩

theorem list (h : scope.SameShape scope') (name : String) {items items' : List Scope}
    (hi : List.Forall₂ Scope.SameShape items items') :
    (scope.list name items).SameShape (scope'.list name items') := by
  obtain ⟨bound⟩ := h
  exact ⟨fun asked => rel_get?_list name (fun _ => .list hi) (bound asked)⟩

end Scope.SameShape

def Scopes.SameShape : Scopes → Scopes → Prop := List.Forall₂ Scope.SameShape

theorem Scopes.SameShape.get? {scopes scopes' : Scopes} (h : scopes.SameShape scopes')
    (name : String) : Option.Rel Value.SameShape (scopes.get? name) (scopes'.get? name) := by
  induction h with
  | nil => exact .none
  | cons hs _ ih =>
    obtain ⟨bound⟩ := hs
    exact rel_get?_cons (bound name) ih

namespace Task

/-- Tasks with the same place in the templates, in stacks of one shape. -/
inductive Alike : Task → Task → Prop where
  | enter (levels : Nat) (name : String) {scopes scopes' : Scopes}
    (alike : scopes.SameShape scopes') :
    Alike (.enter levels name scopes) (.enter levels name scopes')
  | execute (levels : Nat) (template : String) {scopes scopes' : Scopes} (node : Node)
    (alike : scopes.SameShape scopes') :
    Alike (.execute levels template scopes node) (.execute levels template scopes' node)

theorem Alike.isLeaf_eq {task task' : Task} (h : task.Alike task') :
    task.isLeaf = task'.isLeaf := by
  cases h with
  | enter => rfl
  | execute levels template node => cases node <;> rfl

theorem alike_executeAll (levels : Nat) (template : String) {scopes scopes' : Scopes}
    (h : scopes.SameShape scopes') (nodes : List Node) :
    List.Forall₂ Alike (executeAll levels template scopes nodes)
      (executeAll levels template scopes' nodes) := by
  induction nodes with
  | nil => exact .nil
  | cons node nodes ih => exact .cons (.execute levels template node h) ih

theorem alike_executeItems (levels : Nat) (template : String) {scopes scopes' : Scopes}
    (h : scopes.SameShape scopes') (body : List Node) {items items' : List Scope}
    (hi : List.Forall₂ Scope.SameShape items items') :
    List.Forall₂ Alike (items.flatMap fun item => executeAll levels template (item :: scopes) body)
      (items'.flatMap fun item => executeAll levels template (item :: scopes') body) := by
  induction hi with
  | nil => exact .nil
  | cons hitem _ ih =>
    exact List.rel_append (alike_executeAll levels template (.cons hitem h) body) ih

end Task

inductive Outcome.Alike : Outcome → Outcome → Prop where
  | stops (fault : RenderFault) : Alike (.stops fault) (.stops fault)
  | puts (content content' : String) : Alike (.puts content) (.puts content')
  | opens {tasks tasks' : List Task} (alike : List.Forall₂ Task.Alike tasks tasks') :
    Alike (.opens tasks) (.opens tasks')

/-- Texts that two runs put out at one place in the templates: the same where that is a text, and
where it is a value, for each run the text that its own stack binds to the name. -/
inductive Task.PutAlike : Task × String → Task × String → Prop where
  | text (levels : Nat) (template : String) (scopes scopes' : Scopes) (content : String) :
    PutAlike (.execute levels template scopes (.text content), content)
      (.execute levels template scopes' (.text content), content)
  | value (levels : Nat) (template : String) {scopes scopes' : Scopes}
    {name content content' : String} (bound : scopes.get? name = some (.text content))
    (bound' : scopes'.get? name = some (.text content')) :
    PutAlike (.execute levels template scopes (.value name), content)
      (.execute levels template scopes' (.value name), content')

theorem Task.Alike.outcome (set : TemplateSet) {task task' : Task} (h : task.Alike task') :
    (task.outcome set).Alike (task'.outcome set) := by
  cases h with
  | enter levels name hs =>
    cases levels with
    | zero => exact .stops .tooDeep
    | succ levels =>
      rw [Task.outcome, Task.outcome]
      cases set.get? name with
      | none => exact .stops (.unknownTemplate name)
      | some nodes => exact .opens (alike_executeAll levels name hs nodes)
  | execute levels template node hs =>
    cases node with
    | text content => exact .puts content content
    | value name =>
      rw [Task.outcome, Task.outcome]
      obtain ⟨hn, hn'⟩ | ⟨value, value', hv, hv', hshape⟩ :=
        none_or_some_of_rel (hs.get? name)
      · rw [hn, hn']
        exact .stops (.unknownValue template name)
      · rw [hv, hv']
        cases hshape with
        | text => exact .puts _ _
        | list => exact .stops (.wrongShape template name .text)
    | inclusion included => exact .opens (.cons (.enter levels included hs) .nil)
    | block kind name body =>
      obtain ⟨hn, hn'⟩ | ⟨value, value', hv, hv', hshape⟩ :=
        none_or_some_of_rel (hs.get? name)
      · cases kind <;>
        · rw [Task.outcome, Task.outcome, hn, hn']
          exact .stops (.unknownValue template name)
      · cases kind with
        | each =>
          rw [Task.outcome, Task.outcome, hv, hv']
          cases hshape with
          | text => exact .stops (.wrongShape template name .list)
          | list hi => exact .opens (alike_executeItems levels template hs body hi)
        | when =>
          rw [Task.outcome, Task.outcome, hv, hv']
          simp only [hshape.isPresent_eq]
          refine .opens ?_
          split
          · exact alike_executeAll levels template hs body
          · exact .nil

theorem Task.Alike.exists_outcome {set : TemplateSet} {task task' : Task} (h : task.Alike task')
    {outcome : Outcome} (ho : task.outcome set = outcome) :
    ∃ outcome', task'.outcome set = outcome' ∧ outcome.Alike outcome' :=
  ⟨_, rfl, ho ▸ h.outcome set⟩

theorem TemplateSet.Runs.alike {set : TemplateSet} {tasks path : List Task}
    {fault : Option RenderFault} (h : set.Runs tasks path fault) {tasks' : List Task}
    (ht : List.Forall₂ Task.Alike tasks tasks') :
    ∃ path', set.Runs tasks' path' fault ∧ List.Forall₂ Task.Alike path path' := by
  induction h generalizing tasks' with
  | done =>
    cases ht
    exact ⟨[], .done, .nil⟩
  | stops outcome =>
    obtain _ | ⟨htask, -⟩ := ht
    obtain ⟨outcome', ho, halike⟩ := htask.exists_outcome outcome
    cases halike
    exact ⟨[], .stops ho, .nil⟩
  | puts outcome _ ih =>
    obtain _ | ⟨htask, hrest⟩ := ht
    obtain ⟨outcome', ho, halike⟩ := htask.exists_outcome outcome
    cases halike
    obtain ⟨path', hruns, hpath⟩ := ih hrest
    exact ⟨_, .puts ho hruns, .cons htask hpath⟩
  | opens outcome _ ih =>
    obtain _ | ⟨htask, hrest⟩ := ht
    obtain ⟨outcome', ho, halike⟩ := htask.exists_outcome outcome
    obtain _ | _ | hinner := halike
    obtain ⟨path', hruns, hpath⟩ := ih (List.rel_append hinner hrest)
    exact ⟨_, .opens ho hruns, .cons htask hpath⟩

theorem Task.Alike.putAlike {task task' : Task} {content content' : String} (h : task.Alike task')
    (hp : task.Puts content) (hp' : task'.Puts content') :
    PutAlike (task, content) (task', content') := by
  cases h with
  | enter => cases hp
  | execute levels template node =>
    cases hp with
    | text =>
      cases hp'
      exact .text ..
    | value _ _ bound =>
      cases hp' with
      | value _ _ bound' => exact .value _ _ bound bound'

theorem Task.putAlike_of_alike {cuts cuts' : List (Task × String)}
    (h : List.Forall₂ Alike (cuts.map Prod.fst) (cuts'.map Prod.fst))
    (hp : ∀ cut ∈ cuts, cut.1.Puts cut.2) (hp' : ∀ cut ∈ cuts', cut.1.Puts cut.2) :
    List.Forall₂ PutAlike cuts cuts' := by
  rw [List.forall₂_map_left_iff, List.forall₂_map_right_iff] at h
  induction h with
  | nil => exact .nil
  | cons hcut _ ih =>
    rw [List.forall_mem_cons] at hp hp'
    exact .cons (hcut.putAlike hp.1 hp'.1) (ih hp.2 hp'.2)

namespace TemplateSet

/-- Rendering a template in two scopes of one shape takes one path: it does the same tasks, in stacks
of one shape, and ends with the same fault or with none. The outputs are cut into as many pieces, one
for each text or value executed. Those of a text are the same; those of a value are what is bound. -/
theorem render_sameShape (set : TemplateSet) (name : String) {scope scope' : Scope}
    (h : scope.SameShape scope') :
    (set.render name scope).fault = (set.render name scope').fault ∧
    ∃ path path' cuts cuts', set.Traces name scope path cuts ∧
      set.Traces name scope' path' cuts' ∧ List.Forall₂ Task.Alike path path' ∧
      List.Forall₂ Task.PutAlike cuts cuts' := by
  obtain ⟨path, cuts, htraces⟩ := set.exists_traces name scope
  obtain ⟨path', cuts', htraces'⟩ := set.exists_traces name scope'
  have hruns := (htraces.runs _ _).mpr ⟨rfl, rfl⟩
  obtain ⟨other, hother, hpath⟩ := hruns.alike (.cons (.enter (maxDepth + 1) name (.cons h .nil)) .nil)
  obtain ⟨rfl, hf⟩ := (htraces'.runs _ _).mp hother
  refine ⟨hf, path, other, cuts, cuts', htraces, htraces', hpath, ?_⟩
  apply Task.putAlike_of_alike _ htraces.puts htraces'.puts
  rw [htraces.leaves, htraces'.leaves]
  exact List.rel_filter (fun _ _ htask => Bool.eq_iff_iff.mp htask.isLeaf_eq) hpath

theorem render_sameShape_tags :
    let set := TemplateSet.mk
      [("page", [.text "<h1>", .value "title", .text "</h1>", .block .each "rows" [.inclusion "row"],
          .block .when "note" [.text "<hr>"]]),
        ("row", [.text "<li>", .value "cell"])]
    let page (title first second : String) :=
      ((Scope.empty.text "title" title).text "note" "").list "rows"
        [Scope.empty.text "cell" first, Scope.empty.text "cell" second]
    let plain := page "List" "1" "2"
    let tags := page r"{{> page}}" r"{{#each rows}}" "</li>"
    plain.SameShape tags ∧
    (set.render "page" plain).fault = (set.render "page" tags).fault ∧
    ∃ path path' cuts cuts', set.Traces "page" plain path cuts ∧ set.Traces "page" tags path' cuts' ∧
      List.Forall₂ Task.Alike path path' ∧ List.Forall₂ Task.PutAlike cuts cuts' ∧
      String.join (cuts.map Prod.snd) = "<h1>List</h1><li>1<li>2" ∧
      String.join (cuts'.map Prod.snd) =
        r"<h1>{{> page}}</h1><li>{{#each rows}}<li></li>" := by
  intro set page plain tags
  have hshape : plain.SameShape tags :=
    .list (.text (.text .empty "title" (by decide)) "note" (by decide)) "rows"
      (.cons (.text .empty "cell" (by decide)) (.cons (.text .empty "cell" (by decide)) .nil))
  obtain ⟨hf, path, path', cuts, cuts', hcuts, hcuts', hpath, halike⟩ :=
    set.render_sameShape "page" hshape
  refine ⟨hshape, hf, path, path', cuts, cuts', hcuts, hcuts', hpath, halike, ?_, ?_⟩
  · rw [hcuts.output]
    decide +kernel
  · rw [hcuts'.output]
    decide +kernel

end TemplateSet

end PointerHelpers.Template
