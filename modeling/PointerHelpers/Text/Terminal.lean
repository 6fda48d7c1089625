namespace PointerHelpers.Text

def isBlankControl (c : Char) : Bool :=
  ['\t', '\n', '\x0c', '\r'].contains c

def isShown (c : Char) : Bool := isBlankControl c || (' ' ≤ c && c ≠ '\x7f')

/-- The terminal sequence within which a text stands: none, one that has only its escape character
or others after that, a control sequence, the beginning of a device string, its numbers or what
follows these, a string that nothing reads, or a command to the system. -/
inductive Sequence where
  | none
  | escape
  | escapeTail
  | control
  | device
  | deviceNumbers
  | deviceTail
  | ignored
  | command
  deriving DecidableEq

namespace Sequence

def shows (sequence : Sequence) (c : Char) : Bool :=
  match sequence with
  | .none => isShown c
  | .escape | .escapeTail | .control => isBlankControl c
  | .device | .deviceNumbers | .deviceTail | .ignored | .command => false

/-- Where a text stands after a character that is not shown. A cancel or substitute character ends
any sequence, and an escape character begins a new one. The byte that ends a string may be one of
those of a longer character. -/
def after (sequence : Sequence) (c : Char) : Sequence :=
  let between (first last : Char) : Bool := first ≤ c && c ≤ last
  if c = '\x18' ∨ c = '\x1a' then .none
  else if c = '\x1b' then .escape
  else
    match sequence with
    | .none => .none
    | .escape =>
      if between ' ' '/' then .escapeTail
      else if c = '[' then .control
      else if c = ']' then .command
      else if c = 'P' then .device
      else if c = 'X' ∨ c = '^' ∨ c = '_' then .ignored
      else if between '0' '~' then .none
      else .escape
    | .escapeTail => if between '0' '~' then .none else .escapeTail
    | .control => if between '@' '~' then .none else .control
    | .device =>
      if between ' ' '/' then .deviceTail
      else if between '0' '?' then .deviceNumbers
      else if between '@' '~' then .ignored
      else .device
    | .deviceNumbers =>
      if between ' ' '/' then .deviceTail
      else if between '<' '~' then .ignored
      else .deviceNumbers
    | .deviceTail => if between '0' '~' then .ignored else .deviceTail
    | .ignored => if (String.utf8EncodeChar c).contains 0x9C then .none else .ignored
    | .command => if c = '\x07' then .none else .command

end Sequence

/-- The characters that are shown. When a blank within a sequence is shown, so is what follows, up
to a character that is not shown outside of any sequence; there the sequence goes on, unless a
character beyond ASCII ended it. -/
def shownFrom (sequence : Sequence) (paused : Bool) : List Char → List Char
  | [] => []
  | c :: cs =>
    if (if paused then Sequence.none else sequence).shows c then
      c :: shownFrom (if c.toNat < 128 then sequence else .none) true cs
    else shownFrom (sequence.after c) false cs

def withoutSequences (text : String) : String := .ofList (shownFrom .none false text.toList)

end PointerHelpers.Text
