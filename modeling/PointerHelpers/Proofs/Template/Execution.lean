import Mathlib.Data.List.Forall2
import PointerHelpers.Template.Renderer

namespace PointerHelpers.Template

open Rendering

/-- To enter a template, or to execute a node of one, where `levels` more templates may be entered one
within another. -/
inductive Task where
  | enter (levels : Nat) (name : String) (scopes : Scopes)
  | execute (levels : Nat) (template : String) (scopes : Scopes) (node : Node)

inductive Outcome where
  | stops (fault : RenderFault)
  | puts (content : String)
  | opens (tasks : List Task)

namespace Task

def executeAll (levels : Nat) (template : String) (scopes : Scopes) (nodes : List Node) :
    List Task :=
  nodes.map (.execute levels template scopes)

def outcome (set : TemplateSet) : Task → Outcome
  | .enter 0 _ _ => .stops .tooDeep
  | .enter (levels + 1) name scopes =>
    match set.get? name with
    | none => .stops (.unknownTemplate name)
    | some nodes => .opens (executeAll levels name scopes nodes)
  | .execute _ _ _ (.text content) => .puts content
  | .execute _ template scopes (.value name) =>
    match scopes.get? name with
    | none => .stops (.unknownValue template name)
    | some (.list _) => .stops (.wrongShape template name .text)
    | some (.text content) => .puts content
  | .execute levels _ scopes (.inclusion included) => .opens [.enter levels included scopes]
  | .execute levels template scopes (.block .each name body) =>
    match scopes.get? name with
    | none => .stops (.unknownValue template name)
    | some (.text _) => .stops (.wrongShape template name .list)
    | some (.list items) =>
      .opens (items.flatMap fun item => executeAll levels template (item :: scopes) body)
  | .execute levels template scopes (.block .when name body) =>
    match scopes.get? name with
    | none => .stops (.unknownValue template name)
    | some value => .opens (if value.isPresent then executeAll levels template scopes body else [])

def isLeaf : Task → Bool
  | .execute _ _ _ (.text _) | .execute _ _ _ (.value _) => true
  | _ => false

/-- What a text or a value puts out: itself, or the text that its scopes bind to it. -/
inductive Puts : Task → String → Prop where
  | text (levels : Nat) (template : String) (scopes : Scopes) (content : String) :
    Puts (.execute levels template scopes (.text content)) content
  | value (levels : Nat) (template : String) {scopes : Scopes} {name content : String}
    (bound : scopes.get? name = some (.text content)) :
    Puts (.execute levels template scopes (.value name)) content

end Task

namespace TemplateSet

/-- The machine does tasks until none is left or one of them stops it: the tasks it has done, in
order, and the fault that stopped it. -/
inductive Runs (set : TemplateSet) : List Task → List Task → Option RenderFault → Prop where
  | done : Runs set [] [] none
  | stops {task : Task} {rest : List Task} {fault : RenderFault}
    (outcome : task.outcome set = .stops fault) : Runs set (task :: rest) [] (some fault)
  | puts {task : Task} {rest path : List Task} {content : String} {fault : Option RenderFault}
    (outcome : task.outcome set = .puts content) (next : Runs set rest path fault) :
    Runs set (task :: rest) (task :: path) fault
  | opens {task : Task} {inner rest path : List Task} {fault : Option RenderFault}
    (outcome : task.outcome set = .opens inner) (next : Runs set (inner ++ rest) path fault) :
    Runs set (task :: rest) (task :: path) fault

variable {set : TemplateSet}

theorem Runs.unique {tasks path path' : List Task} {fault fault' : Option RenderFault}
    (h : set.Runs tasks path fault) (h' : set.Runs tasks path' fault') :
    path' = path ∧ fault' = fault := by
  induction h generalizing path' fault' with
  | done =>
    cases h'
    exact ⟨rfl, rfl⟩
  | stops outcome =>
    cases h' with
    | stops outcome' =>
      cases outcome.symm.trans outcome'
      exact ⟨rfl, rfl⟩
    | puts outcome' | opens outcome' => simp [outcome] at outcome'
  | puts outcome _ ih =>
    cases h' with
    | puts outcome' next => simp [ih next]
    | stops outcome' | opens outcome' => simp [outcome] at outcome'
  | opens outcome _ ih =>
    cases h' with
    | opens outcome' next =>
      cases outcome.symm.trans outcome'
      simp [ih next]
    | stops outcome' | puts outcome' => simp [outcome] at outcome'

end TemplateSet

section Rendering

variable (set : TemplateSet)

def Task.rendering : Task → Rendering
  | .enter levels name scopes => set.renderWithin levels name scopes
  | .execute levels template scopes node =>
    renderNode (set.renderWithin levels) template scopes node

def Outcome.rendering : Outcome → Rendering
  | .stops fault => .fail fault
  | .puts content => .single content
  | .opens tasks => .forEach tasks (Task.rendering set)

theorem forEach_executeAll (levels : Nat) (template : String) (scopes : Scopes)
    (nodes : List Node) :
    forEach (Task.executeAll levels template scopes nodes) (Task.rendering set) =
      renderNodes (set.renderWithin levels) template scopes nodes := by
  rw [Task.executeAll, forEach_map]
  induction nodes with
  | nil => rw [forEach, renderNodes]
  | cons node rest ih => rw [forEach, renderNodes, ih, Task.rendering]

theorem Task.rendering_outcome (task : Task) :
    (task.outcome set).rendering set = task.rendering set := by
  cases task with
  | enter levels name scopes =>
    cases levels with
    | zero => rfl
    | succ levels =>
      rw [outcome, rendering]
      cases hg : set.get? name with
      | none => rw [TemplateSet.renderWithin_of_get?_eq_none hg, Outcome.rendering]
      | some nodes =>
        rw [TemplateSet.renderWithin_of_get? hg, Outcome.rendering, forEach_executeAll]
  | execute levels template scopes node =>
    rw [rendering]
    cases node with
    | text content => rw [outcome, renderNode, Outcome.rendering]
    | value name =>
      rw [outcome, renderNode]
      obtain _ | _ | _ := scopes.get? name <;> rfl
    | inclusion included =>
      rw [outcome, renderNode, Outcome.rendering, forEach_singleton, rendering]
    | block kind name body =>
      cases kind with
      | each =>
        rw [outcome, renderNode]
        obtain _ | _ | items := scopes.get? name
        · rfl
        · rfl
        · simp only [Outcome.rendering, forEach_flatMap, forEach_executeAll]
      | when =>
        rw [outcome, renderNode]
        cases scopes.get? name with
        | none => rfl
        | some value =>
          simp only [Outcome.rendering]
          split
          · rw [forEach_executeAll]
          · rfl

end Rendering

namespace Task

variable {set : TemplateSet} {task : Task}

theorem Puts.isLeaf {content : String} (h : task.Puts content) : task.isLeaf = true := by
  cases h <;> rfl

theorem puts_of_outcome {content : String} (h : task.outcome set = .puts content) :
    task.Puts content := by
  revert h
  fun_cases outcome set task
  case case4 levels template scopes content' =>
    rintro ⟨⟩
    exact .text levels template scopes content
  case case7 levels template scopes name content' bound =>
    rintro ⟨⟩
    exact .value levels template bound
  all_goals rintro ⟨⟩

theorem isLeaf_of_opens {inner : List Task} (h : task.outcome set = .opens inner) :
    task.isLeaf = false := by
  revert h
  fun_cases outcome set task
  all_goals first | rintro ⟨⟩; done | exact fun _ => rfl

end Task

namespace TemplateSet

variable {set : TemplateSet}

/-- A run comes to what its tasks are rendered to: to their fault, and to a piece of their output for
each text and value that was executed. -/
theorem Runs.comesTo {tasks path : List Task} {fault : Option RenderFault}
    (h : set.Runs tasks path fault) :
    (forEach tasks (Task.rendering set)).fault = fault ∧
      List.Forall₂ Task.Puts (path.filter Task.isLeaf)
        (forEach tasks (Task.rendering set)).pieces := by
  induction h with
  | done => exact ⟨rfl, .nil⟩
  | stops outcome =>
    rw [forEach, ← Task.rendering_outcome, outcome]
    exact ⟨rfl, .nil⟩
  | puts outcome _ ih =>
    have hputs := Task.puts_of_outcome outcome
    rw [forEach, ← Task.rendering_outcome, outcome, List.filter_cons_of_pos hputs.isLeaf]
    exact ⟨ih.1, .cons hputs ih.2⟩
  | opens outcome _ ih =>
    -- Rendering the tasks that it opens before the rest is rendering them in its place.
    have hleaf := Task.isLeaf_of_opens outcome
    rw [forEach, ← Task.rendering_outcome, outcome, Outcome.rendering, ← forEach_append,
      List.filter_cons_of_neg (by rw [hleaf]; decide)]
    exact ih

variable (set) in
def Ends (tasks : List Task) : Prop := ∃ path fault, set.Runs tasks path fault

theorem Ends.cons {task : Task} {rest : List Task} (hr : set.Ends rest)
    (h : ∀ inner, task.outcome set = .opens inner → set.Ends (inner ++ rest)) :
    set.Ends (task :: rest) := by
  cases ho : task.outcome set with
  | stops fault => exact ⟨_, _, .stops ho⟩
  | puts content =>
    obtain ⟨path, fault, hruns⟩ := hr
    exact ⟨_, _, .puts ho hruns⟩
  | opens inner =>
    obtain ⟨path, fault, hruns⟩ := h inner ho
    exact ⟨_, _, .opens ho hruns⟩

theorem Ends.flatMap {α : Type} {f : α → List Task} {rest : List Task} (items : List α)
    (hr : set.Ends rest) (h : ∀ item rest, set.Ends rest → set.Ends (f item ++ rest)) :
    set.Ends (items.flatMap f ++ rest) := by
  induction items with
  | nil => exact hr
  | cons item items ih =>
    rw [List.flatMap_cons, List.append_assoc]
    exact h item _ ih

section

variable {levels : Nat} {template : String}

mutual

/-- A task opens others, so the list does not get shorter: the induction is on the node, and the tasks
behind it are any that end. -/
theorem ends_execute
    (hc : ∀ name scopes rest, set.Ends rest → set.Ends (.enter levels name scopes :: rest))
    (scopes : Scopes) : ∀ (node : Node) (rest : List Task), set.Ends rest →
      set.Ends (.execute levels template scopes node :: rest)
  | .text content, rest, hr => hr.cons fun inner h => by cases h
  | .value name, rest, hr => hr.cons fun inner h => by
    rw [Task.outcome] at h
    cases hb : scopes.get? name with
    | none => simp [hb] at h
    | some value => cases value <;> simp [hb] at h
  | .inclusion included, rest, hr => hr.cons fun inner h => by
    cases h
    exact hc included scopes rest hr
  | .block .each name body, rest, hr => hr.cons fun inner h => by
    rw [Task.outcome] at h
    cases hb : scopes.get? name with
    | none => simp [hb] at h
    | some value =>
      cases value with
      | text content => simp [hb] at h
      | list items =>
        simp only [hb, Outcome.opens.injEq] at h
        rw [← h]
        exact Ends.flatMap items hr fun item => ends_executeAll hc (item :: scopes) body
  | .block .when name body, rest, hr => hr.cons fun inner h => by
    rw [Task.outcome] at h
    cases hb : scopes.get? name with
    | none => simp [hb] at h
    | some value =>
      simp only [hb, Outcome.opens.injEq] at h
      rw [← h]
      split
      · exact ends_executeAll hc scopes body rest hr
      · exact hr

theorem ends_executeAll
    (hc : ∀ name scopes rest, set.Ends rest → set.Ends (.enter levels name scopes :: rest))
    (scopes : Scopes) : ∀ (nodes : List Node) (rest : List Task), set.Ends rest →
      set.Ends (Task.executeAll levels template scopes nodes ++ rest)
  | [], _, hr => hr
  | node :: nodes, rest, hr =>
    ends_execute hc scopes node _ (ends_executeAll hc scopes nodes rest hr)

end

end

theorem ends_enter (levels : Nat) (name : String) (scopes : Scopes) (rest : List Task)
    (hr : set.Ends rest) : set.Ends (.enter levels name scopes :: rest) := by
  induction levels generalizing name scopes rest with
  | zero => exact hr.cons fun inner h => by cases h
  | succ levels ih =>
    refine hr.cons fun inner h => ?_
    rw [Task.outcome] at h
    cases hg : set.get? name with
    | none => simp [hg] at h
    | some nodes =>
      simp only [hg, Outcome.opens.injEq] at h
      rw [← h]
      exact ends_executeAll ih scopes nodes rest hr

/-- The tasks that rendering a template does, in the one run that enters it, and a cut of its output
into pieces, one for each text and value that is executed. -/
structure Traces (set : TemplateSet) (name : String) (scope : Scope) (path : List Task)
    (cuts : List (Task × String)) : Prop where
  runs : ∀ other fault, set.Runs [.enter (maxDepth + 1) name [scope]] other fault ↔
    other = path ∧ fault = (set.render name scope).fault
  leaves : cuts.map Prod.fst = path.filter Task.isLeaf
  puts : ∀ cut ∈ cuts, cut.1.Puts cut.2
  output : String.join (cuts.map Prod.snd) = (set.render name scope).output

theorem exists_traces (set : TemplateSet) (name : String) (scope : Scope) :
    ∃ path cuts, set.Traces name scope path cuts := by
  obtain ⟨path, fault, hruns⟩ := set.ends_enter (maxDepth + 1) name [scope] [] ⟨_, _, .done⟩
  obtain ⟨hf, hp⟩ := hruns.comesTo
  rw [forEach_singleton, Task.rendering, ← render] at hf hp
  have hl := hp.length_eq
  refine ⟨path, (path.filter Task.isLeaf).zip (set.render name scope).pieces, ?_, ?_, ?_, ?_⟩
  · rintro other fault'
    rw [hf]
    constructor
    · exact hruns.unique
    · rintro ⟨rfl, rfl⟩
      exact hruns
  · rw [List.map_fst_zip (Nat.le_of_eq hl)]
  · exact fun cut hcut => List.forall₂_zip hp hcut
  · rw [List.map_snd_zip (Nat.le_of_eq hl.symm), output]

end TemplateSet

end PointerHelpers.Template
