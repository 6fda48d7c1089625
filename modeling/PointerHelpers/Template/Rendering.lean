namespace PointerHelpers.Template

inductive Shape where
  | text
  | list
  deriving DecidableEq

def Shape.description : Shape → String
  | .text => "text"
  | .list => "a list"

/-- Includes may be nested this deep; deeper ones are taken for a cycle. -/
def maxDepth : Nat := 32

inductive RenderFault where
  | unknownTemplate (name : String)
  | unknownValue (template name : String)
  | wrongShape (template name : String) (expected : Shape)
  | tooDeep
  deriving DecidableEq

def RenderFault.message : RenderFault → String
  | .unknownTemplate name => "no template named `" ++ name ++ "`"
  | .unknownValue template name =>
    "template `" ++ template ++ "` refers to undefined value `" ++ name ++ "`"
  | .wrongShape template name expected =>
    "template `" ++ template ++ "` expects `" ++ name ++ "` to be " ++ expected.description
  | .tooDeep => "template includes nested deeper than " ++ toString maxDepth ++ " levels"

/-- What a template comes to: the texts it puts out one after the other, and the fault that ends it,
if one does. What follows a text is made only when it is asked for, so that nothing is rendered
after an output has failed. -/
inductive Rendering where
  | done
  | fail (fault : RenderFault)
  | piece (text : String) (rest : Unit → Rendering)

namespace Rendering

def single (text : String) : Rendering := .piece text fun _ => .done

def pieces : Rendering → List String
  | .done | .fail _ => []
  | .piece text rest => text :: (rest ()).pieces

def fault : Rendering → Option RenderFault
  | .done => none
  | .fail fault => some fault
  | .piece _ rest => (rest ()).fault

def andThen (first : Rendering) (second : Unit → Rendering) : Rendering :=
  match first with
  | .done => second ()
  | .fail fault => .fail fault
  | .piece text rest => .piece text fun _ => (rest ()).andThen second

def forEach {α : Type} (items : List α) (render : α → Rendering) : Rendering :=
  match items with
  | [] => .done
  | item :: rest => (render item).andThen fun _ => forEach rest render

def output (rendering : Rendering) : String := String.join rendering.pieces

def textAfter (before : String) : Rendering → Except RenderFault String
  | .done => .ok before
  | .fail fault => .error fault
  | .piece text rest => (rest ()).textAfter (before ++ text)

def text (rendering : Rendering) : Except RenderFault String := rendering.textAfter ""

theorem ext {first second : Rendering} (pieces : first.pieces = second.pieces)
    (fault : first.fault = second.fault) : first = second := by
  induction first generalizing second with
  | done | fail _ => cases second <;> simp_all [Rendering.pieces, Rendering.fault]
  | piece text rest ih =>
    cases second with
    | done | fail _ => simp [Rendering.pieces] at pieces
    | piece text' rest' =>
      simp only [Rendering.pieces, List.cons.injEq] at pieces
      rw [pieces.1, show rest = rest' from funext fun _ => ih () pieces.2 fault]

@[simp] theorem fault_andThen (first : Rendering) (second : Unit → Rendering) :
    (first.andThen second).fault = first.fault.or (second ()).fault := by
  induction first with
  | done | fail _ => simp [andThen, fault]
  | piece text rest ih => simpa [andThen, fault] using ih ()

@[simp] theorem pieces_andThen (first : Rendering) (second : Unit → Rendering) :
    (first.andThen second).pieces =
      first.pieces ++ if first.fault.isNone then (second ()).pieces else [] := by
  induction first with
  | done | fail _ => simp [andThen, pieces, fault]
  | piece text rest ih => simpa [andThen, pieces, fault] using ih ()

theorem andThen_assoc (first : Rendering) (second third : Unit → Rendering) :
    (first.andThen second).andThen third = first.andThen fun _ => (second ()).andThen third := by
  induction first with
  | done | fail _ => rfl
  | piece text rest ih =>
    rw [andThen, andThen, andThen]
    exact congrArg _ (funext fun _ => ih ())

section

variable {α β : Type}

theorem forEach_singleton (item : α) (render : α → Rendering) :
    forEach [item] render = render item := by
  rw [forEach, forEach]
  exact ext (by simp [pieces]) (by simp [fault])

theorem forEach_map (items : List α) (f : α → β) (render : β → Rendering) :
    forEach (items.map f) render = forEach items fun item => render (f item) := by
  induction items with
  | nil => rfl
  | cons item rest ih => rw [List.map_cons, forEach, forEach, ih]

theorem forEach_append (items later : List α) (render : α → Rendering) :
    forEach (items ++ later) render =
      (forEach items render).andThen fun _ => forEach later render := by
  induction items with
  | nil => rfl
  | cons item rest ih => rw [List.cons_append, forEach, forEach, ih, andThen_assoc]

theorem forEach_flatMap (items : List α) (f : α → List β) (render : β → Rendering) :
    forEach (items.flatMap f) render = forEach items fun item => forEach (f item) render := by
  induction items with
  | nil => rfl
  | cons item rest ih => rw [List.flatMap_cons, forEach_append, forEach, ih]

end

end Rendering

end PointerHelpers.Template
