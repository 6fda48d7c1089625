import PointerHelpers.Report.Display
import PointerHelpers.Template.Token
import PointerHelpers.Text.Split

namespace PointerHelpers.Report

open Template Text

/-- A line of a text without what ends it, which takes `ending` bytes. -/
structure Line where
  number : Nat
  start : Nat
  content : List Char
  ending : Nat

namespace Line

def contentStop (line : Line) : Nat := line.start + byteLength line.content

def stop (line : Line) : Nat := line.contentStop + line.ending

def holds (line : Line) (offset : Nat) : Bool := line.start ≤ offset && offset < line.stop

def ofPart (number start : Nat) (part : List Char) : Line :=
  if part.getLast? = some '\r' then ⟨number, start, part.dropLast, 2⟩ else ⟨number, start, part, 1⟩

/-- The lines of the parts between newlines. There is no line after a newline at the end. -/
def ofParts (number start : Nat) : List (List Char) → List Line
  | [] => []
  | [part] => if part = [] then [] else [⟨number, start, part, 0⟩]
  | part :: rest =>
    ofPart number start part :: ofParts (number + 1) (start + byteLength part + 1) rest

end Line

def linesOf (text : String) : List Line := Line.ofParts 1 0 (splitOn '\n' text.toList)

def takeBytes (count : Nat) : List Char → List Char
  | [] => []
  | c :: cs => if count < c.utf8Size then [] else c :: takeBytes (count - c.utf8Size) cs

structure Place where
  line : Line
  before : List Char

/-- The place of a byte offset; the end of the text belongs to the last line. -/
def placeOf (lines : List Line) (offset : Nat) : Place :=
  let line := (lines.find? (·.holds offset)).getD (lines.getLast?.getD ⟨1, 0, [], 0⟩)
  ⟨line, takeBytes (offset - line.start) line.content⟩

end PointerHelpers.Report
