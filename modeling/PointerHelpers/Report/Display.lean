import PointerHelpers.Text.Total
import PointerHelpers.Text.Width

namespace PointerHelpers.Report

open Text

def isDirectional (c : Char) : Bool :=
  Ranges.holds [(0x202A, 0x202E), (0x2066, 0x2069)] c

def tabWidth : Nat := 4

def displayWidth (c : Char) : Nat :=
  if c = '\t' then tabWidth else if isDirectional c then 1 else charWidth c

def displayLength : List Char → Nat := total displayWidth

/-- A character as a report shows it: a tab as spaces, other control characters as their pictures,
and none that joins or reorders its neighbours. -/
def visibleChar (c : Char) : List Char :=
  if c = '\t' then List.replicate tabWidth ' '
  else if c = '\n' then [c]
  else if c.toNat < 32 then [Char.ofNat (0x2400 + c.toNat)]
  else if c.toNat = 0x7F then ['\u2421']
  else if c.toNat = 0x200D then []
  else if isDirectional c then ['\ufffd']
  else [c]

def visible (cs : List Char) : List Char := cs.flatMap visibleChar

end PointerHelpers.Report
