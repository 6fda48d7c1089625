import PointerHelpers.Template.Pieces
import PointerHelpers.Template.Tag
import PointerHelpers.Text.Total

namespace PointerHelpers.Template

def isBlank (c : Char) : Bool := c == ' ' || c == '\t' || c == '\r' || c == '\n'

def byteLength : List Char → Nat := Text.total Char.utf8Size

def firstLine (cs : List Char) : List Char := cs.takeWhile (· != '\n')

def lastLine (cs : List Char) : List Char := (cs.reverse.takeWhile (· != '\n')).reverse

def afterFirstLine (cs : List Char) : List Char := (cs.dropWhile (· != '\n')).drop 1

def beforeLastLine (cs : List Char) : List Char := (cs.reverse.dropWhile (· != '\n')).reverse

/-- Whether the line of a tag is blank before it, for the gap before it. Without a newline in the
gap the line goes back to the tag before, unless the text begins here. -/
def blankBefore (atStart : Bool) (gap : List Char) : Bool :=
  (atStart || gap.contains '\n') && (lastLine gap).all isBlank

def blankAfter : Pieces → Bool
  | .last gap => (firstLine gap).all isBlank
  | .unterminated gap _ | .tag gap _ _ => gap.contains '\n' && (firstLine gap).all isBlank

inductive Token.Kind where
  | text (content : String)
  | tag (tag : Tag)
  | fault (fault : Fault)

structure Token where
  span : Span
  kind : Token.Kind

namespace Token

/-- What is kept of a gap that begins at byte `offset`. A tag alone on its line takes the line with
it: the first line of the gap after it and the last line of the gap before it. -/
def ofGap (offset : Nat) (dropFirst dropLast : Bool) (gap : List Char) : List Token :=
  let body := if dropFirst then afterFirstLine gap else gap
  let kept := if dropLast then beforeLastLine body else body
  let start := offset + (byteLength gap - byteLength body)
  if kept.isEmpty then [] else [⟨⟨start, start + byteLength kept⟩, .text (.ofList kept)⟩]

def ofPieces (atStart dropFirst : Bool) (offset : Nat) : Pieces → List Token
  | .last gap => ofGap offset dropFirst false gap
  | .unterminated gap content =>
    let start := offset + byteLength gap
    ofGap offset dropFirst false gap ++
      [⟨⟨start, start + 2 + byteLength content⟩, .fault .unterminated⟩]
  | .tag gap content next =>
    let start := offset + byteLength gap
    let span : Span := ⟨start, start + 2 + byteLength content + 2⟩
    match Tag.read content with
    | .error fault => ofGap offset dropFirst false gap ++ [⟨span, .fault fault⟩]
    | .ok tag =>
      let alone := !tag.isValue && blankBefore atStart gap && blankAfter next
      ofGap offset dropFirst alone gap ++ ⟨span, .tag tag⟩ :: ofPieces false alone span.stop next

def scan (text : String) : List Token :=
  ofPieces true false 0 (.outside text.toList)

end Token

end PointerHelpers.Template
