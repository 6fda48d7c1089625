import PointerHelpers.Output.Delivery
import PointerHelpers.Text.Utf8

namespace PointerHelpers.Output

open Template Text

inductive Refusal where
  | closed
  | takesNothing
  deriving DecidableEq

def Refusal.message : Refusal → String
  | .closed => "closed"
  | .takesNothing => "failed to write whole buffer"

/-- A receiver of bytes that takes at most `limit` in all and at most `chunk` in one call, both
unlimited if absent. -/
structure Receiver where
  limit : Option Nat
  chunk : Option Nat
  refusal : Refusal

def bytes (text : String) : List UInt8 := text.toUTF8.data.toList

namespace Receiver

def unlimited : Receiver := ⟨none, none, .closed⟩

def next (receiver : Receiver) : Option Nat :=
  match receiver.limit, receiver.chunk with
  | some limit, some chunk => some (min limit chunk)
  | some limit, none => some limit
  | none, chunk => chunk

def after (receiver : Receiver) (taken : Nat) : Receiver :=
  { receiver with limit := receiver.limit.map (· - taken) }

/-- Call the receiver until it has taken all bytes or declines. The answer holds the bytes it took
and the receiver after that. -/
def takeAll (receiver : Receiver) (content : List UInt8) :
    List UInt8 × Except Refusal Receiver :=
  if content = [] then ([], .ok receiver)
  else
    match receiver.next with
    | none => (content, .ok receiver)
    | some 0 => ([], .error receiver.refusal)
    | some (most + 1) =>
      let taken := content.take (most + 1)
      let (later, result) := (receiver.after taken.length).takeAll (content.drop (most + 1))
      (taken ++ later, result)
termination_by content.length
decreasing_by
  have := List.length_pos_iff.2 ‹content ≠ []›
  simp only [List.length_drop]
  omega

def deliver (receiver : Receiver) :
    Rendering → List UInt8 × Except (DeliveryError Refusal) Unit
  | .done => ([], .ok ())
  | .fail fault => ([], .error (.rendering fault))
  | .piece text rest =>
    match receiver.takeAll (bytes text) with
    | (taken, .error refusal) => (taken, .error (.output refusal))
    | (taken, .ok receiver) =>
      let (later, result) := receiver.deliver (rest ())
      (taken ++ later, result)

end Receiver

def collect (rendering : Rendering) : Except (DeliveryError Refusal) String :=
  match Receiver.unlimited.deliver rendering with
  | (_, .error error) => .error error
  | (content, .ok ()) => .ok (Utf8.decode content)

end PointerHelpers.Output
