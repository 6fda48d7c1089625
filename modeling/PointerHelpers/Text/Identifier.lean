import PointerHelpers.Text.Alphabetic
import PointerHelpers.Text.Numeric
import PointerHelpers.Text.Uppercase

namespace PointerHelpers.Text

def isNameStart (c : Char) : Bool := isAlphabetic c || c == '_'

def isNamePart (c : Char) : Bool := isAlphabetic c || isNumeric c || c == '_'

def isIdentifier : List Char → Bool
  | [] => false
  | c :: cs => isNameStart c && cs.all isNamePart

def capitalize : List Char → List Char
  | [] => []
  | c :: cs => uppercase c ++ cs

end PointerHelpers.Text
