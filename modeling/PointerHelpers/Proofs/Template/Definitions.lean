import Mathlib.Data.List.Nodup
import PointerHelpers.Template.Renderer

namespace PointerHelpers.Template.TemplateSet

variable {set : TemplateSet} {name : String}

theorem contains_eq_true_iff : set.contains name = true ↔ name ∈ set.names := by
  rw [contains, List.contains_iff_mem]

theorem get?_eq_none_iff : set.get? name = none ↔ name ∉ set.names := by
  rw [get?, names, List.lookup_eq_none_iff, List.mem_map, not_exists]
  refine forall_congr' fun entry => ?_
  rw [not_and, bne_iff_ne, ne_comm]

def add (set : TemplateSet) (name : String) (nodes : List Node) : TemplateSet :=
  ⟨set.templates ++ [(name, nodes)]⟩

theorem names_add (set : TemplateSet) (name : String) (nodes : List Node) :
    (set.add name nodes).names = set.names ++ [name] := by
  rw [names, add, List.map_append]
  rfl

theorem get?_add (set : TemplateSet) (name other : String) (nodes : List Node) :
    (set.add name nodes).get? other =
      (set.get? other).or (if other = name then some nodes else none) := by
  rw [get?, add, List.lookup_append, List.lookup_cons, List.lookup_nil, ← get?]
  by_cases h : other = name
  · rw [beq_iff_eq.mpr h, if_pos h]
  · rw [beq_eq_false_iff_ne.mpr h, if_neg h]

section

variable {text : String}

theorem define_eq_duplicate_iff :
    set.define name text = .error (.duplicate name) ↔ name ∈ set.names := by
  rw [← contains_eq_true_iff, define]
  by_cases h : set.contains name = true
  · simp [h]
  · cases parse text <;> simp [h]

theorem define_eq_malformed_iff {mistake : Mistake} :
    set.define name text = .error (.malformed name mistake text) ↔
      name ∉ set.names ∧ parse text = .error mistake := by
  rw [← contains_eq_true_iff, define]
  by_cases h : set.contains name = true
  · simp [h]
  · cases parse text <;> simp [h]

theorem define_eq_ok_iff {defined : TemplateSet} :
    set.define name text = .ok defined ↔
      name ∉ set.names ∧ ∃ nodes, parse text = .ok nodes ∧ set.add name nodes = defined := by
  rw [← contains_eq_true_iff, define]
  by_cases h : set.contains name = true
  · simp [h]
  · cases parse text <;> simp [h, add]

theorem exists_define_eq_ok_iff :
    (∃ defined, set.define name text = .ok defined) ↔
      name ∉ set.names ∧ ∃ nodes, parse text = .ok nodes := by
  simp [define_eq_ok_iff]

end

def attempt (set : TemplateSet) (definition : String × String) : TemplateSet :=
  match set.define definition.1 definition.2 with
  | .error _ => set
  | .ok defined => defined

section

variable {definition : String × String}

theorem attempt_of_error {error : TemplateError}
    (h : set.define definition.1 definition.2 = .error error) : set.attempt definition = set := by
  rw [attempt, h]

theorem attempt_of_ok {defined : TemplateSet}
    (h : set.define definition.1 definition.2 = .ok defined) :
    set.attempt definition = defined := by
  rw [attempt, h]

end

def after (set : TemplateSet) (definitions : List (String × String)) : TemplateSet :=
  definitions.foldl attempt set

def accepted (set : TemplateSet) : List (String × String) → List (String × String)
  | [] => []
  | definition :: rest =>
    match set.define definition.1 definition.2 with
    | .error _ => set.accepted rest
    | .ok defined => definition :: defined.accepted rest

/-- The templates of a set are those of these definitions, in order, and no name is defined twice. -/
structure Holds (set : TemplateSet) (definitions : List (String × String)) : Prop where
  names_eq : set.names = definitions.map Prod.fst
  distinct : set.names.Nodup
  parsed : ∀ definition ∈ definitions, ∃ nodes, parse definition.2 = .ok nodes ∧
    set.get? definition.1 = some nodes

theorem holds_empty : empty.Holds [] := ⟨rfl, .nil, by simp⟩

namespace Holds

variable {definitions : List (String × String)}

theorem define (h : set.Holds definitions) {text : String} {defined : TemplateSet}
    (hd : set.define name text = .ok defined) : defined.Holds (definitions ++ [(name, text)]) := by
  obtain ⟨fresh, nodes, parsed, rfl⟩ := define_eq_ok_iff.mp hd
  have hnone := get?_eq_none_iff.mpr fresh
  refine ⟨?_, ?_, fun known hm => ?_⟩
  · rw [names_add, h.names_eq, List.map_append]
    rfl
  · rw [names_add]
    exact h.distinct.append (List.nodup_singleton _) (by simpa using fresh)
  · rw [get?_add]
    obtain hm | rfl := (List.mem_append.mp hm).imp_right List.mem_singleton.mp
    · obtain ⟨nodes', hp, hg⟩ := h.parsed known hm
      exact ⟨nodes', hp, by rw [hg, Option.some_or]⟩
    · exact ⟨nodes, parsed, by rw [hnone, Option.none_or, if_pos rfl]⟩

/-- Run: after any sequence of definitions the set holds those that succeeded. -/
theorem after (h : set.Holds definitions) (later : List (String × String)) :
    (set.after later).Holds (definitions ++ set.accepted later) := by
  induction later generalizing set definitions with
  | nil => rwa [accepted, List.append_nil]
  | cons definition rest ih =>
    rw [TemplateSet.after, List.foldl_cons, accepted]
    cases hd : set.define definition.1 definition.2 with
    | error error =>
      rw [attempt_of_error hd]
      exact ih h
    | ok defined =>
      rw [attempt_of_ok hd, List.append_cons]
      exact ih (h.define hd)

end Holds

theorem after_append (set : TemplateSet) (earlier later : List (String × String)) :
    set.after (earlier ++ later) = (set.after earlier).after later := List.foldl_append

theorem after_cons_of_error {text : String} {error : TemplateError}
    (h : set.define name text = .error error) (later : List (String × String)) :
    set.after ((name, text) :: later) = set.after later := by
  rw [after, List.foldl_cons, attempt_of_error h, after]

/-- After any sequence of definitions the set has the names of those that succeeded, in order, and
each is rendered as its text. A further one succeeds if its text is well formed and its name was not
defined with success before; a name that was is a duplicate, whatever the text. One that fails leaves
the set that later definitions and all questions meet as if it had not been tried. -/
theorem after_definitions (earlier : List (String × String)) :
    (empty.after earlier).names = (empty.accepted earlier).map Prod.fst ∧
    ((empty.accepted earlier).map Prod.fst).Nodup ∧
    let set := empty.after earlier
    let known := empty.accepted earlier
    (∀ name, set.contains name = true ↔ name ∈ known.map Prod.fst) ∧
    (∀ definition ∈ known, ∃ nodes, parse definition.2 = .ok nodes ∧ ∀ levels scopes,
      set.renderWithin (levels + 1) definition.1 scopes =
        renderNodes (set.renderWithin levels) definition.1 scopes nodes) ∧
    ∀ name text,
      ((∃ defined, set.define name text = .ok defined) ↔
        name ∉ known.map Prod.fst ∧ ∃ nodes, parse text = .ok nodes) ∧
      (set.define name text = .error (.duplicate name) ↔ name ∈ known.map Prod.fst) ∧
      (∀ mistake, set.define name text = .error (.malformed name mistake text) ↔
        name ∉ known.map Prod.fst ∧ parse text = .error mistake) ∧
      (∀ error, set.define name text = .error error → ∀ later,
        empty.after (earlier ++ (name, text) :: later) = empty.after (earlier ++ later)) ∧
      ∀ mistake, set.define name text = .error (.malformed name mistake text) →
        ∀ text' nodes, parse text' = .ok nodes →
          ∃ defined, (empty.after (earlier ++ [(name, text)])).define name text' = .ok defined := by
  have h : (empty.after earlier).Holds (empty.accepted earlier) := holds_empty.after earlier
  refine ⟨h.names_eq, h.names_eq ▸ h.distinct, ?_⟩
  intro set known
  have hnames : set.names = known.map Prod.fst := h.names_eq
  have hlater {name text : String} {error : TemplateError}
      (he : set.define name text = .error error) (later : List (String × String)) :
      empty.after (earlier ++ (name, text) :: later) = empty.after (earlier ++ later) := by
    rw [after_append, after_append]
    exact after_cons_of_error he later
  rw [← hnames]
  refine ⟨fun name => contains_eq_true_iff, fun definition hm => ?_, fun name text =>
    ⟨exists_define_eq_ok_iff, define_eq_duplicate_iff, fun mistake => define_eq_malformed_iff,
      fun error he => hlater he, ?_⟩⟩
  · obtain ⟨nodes, hp, hg⟩ := h.parsed definition hm
    exact ⟨nodes, hp, fun levels scopes => renderWithin_of_get? hg levels scopes⟩
  · intro mistake he text' nodes hp
    rw [hlater he [], List.append_nil]
    exact exists_define_eq_ok_iff.mpr ⟨(define_eq_malformed_iff.mp he).1, nodes, hp⟩

theorem after_definitions_again :
    let broken := r"{{x"
    let set := empty.after [("page", broken), ("page", "x"), ("page", "y")]
    empty.accepted [("page", broken), ("page", "x"), ("page", "y")] = [("page", "x")] ∧
    set.define "page" broken = .error (.duplicate "page") ∧
    empty.after [("page", broken), ("page", "x"), ("page", "y"), ("page", broken), ("row", "z")] =
      empty.after [("page", broken), ("page", "x"), ("page", "y"), ("row", "z")] ∧
    set.names = ["page"] := by
  intro broken set
  have hk : empty.accepted [("page", broken), ("page", "x"), ("page", "y")] = [("page", "x")] := by
    decide +kernel
  obtain ⟨hnames, -, -, -, hcalls⟩ :=
    after_definitions [("page", broken), ("page", "x"), ("page", "y")]
  rw [hk] at hcalls hnames
  obtain ⟨-, hduplicate, -, hlater, -⟩ := hcalls "page" broken
  have he := hduplicate.mpr (List.mem_singleton.mpr rfl)
  exact ⟨hk, he, hlater _ he [("row", "z")], hnames⟩

end PointerHelpers.Template.TemplateSet
