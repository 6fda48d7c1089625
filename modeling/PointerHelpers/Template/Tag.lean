import PointerHelpers.Template.Fault
import PointerHelpers.Text.Identifier
import PointerHelpers.Text.White

namespace PointerHelpers.Template

open Text

inductive Tag where
  | value (name : String)
  | inclusion (template : String)
  | opening (kind : Block) (name : String)
  | closing (keyword : String)
  deriving DecidableEq

namespace Tag

def isValue : Tag → Bool
  | .value _ => true
  | _ => false

def readInclusion (cs : List Char) : Except Fault Tag :=
  match trim cs with
  | [] => .error .namelessInclusion
  | name => .ok (.inclusion (.ofList name))

def readOpening (cs : List Char) : Except Fault Tag :=
  let keyword := cs.takeWhile (!isWhite ·)
  let name := trim (cs.dropWhile (!isWhite ·))
  match Block.ofKeyword? keyword with
  | none => .error (.unknownBlock (.ofList keyword))
  | some kind =>
    if isIdentifier name then .ok (.opening kind (.ofList name)) else .error (.namelessBlock kind)

def read (content : List Char) : Except Fault Tag :=
  match trim content with
  | [] => .error .emptyTag
  | '>' :: cs => readInclusion cs
  | '#' :: cs => readOpening cs
  | '/' :: cs => .ok (.closing (.ofList (trim cs)))
  | cs => if isIdentifier cs then .ok (.value (.ofList cs)) else .error (.notAName (.ofList cs))

end Tag

end PointerHelpers.Template
