namespace PointerHelpers.Template

/-- A text cut at its tags. A gap is the text before a tag or after the last one, and the content of
a tag stands between its braces; the last tag may lack its closing braces. -/
inductive Pieces where
  | last (gap : List Char)
  | unterminated (gap content : List Char)
  | tag (gap content : List Char) (next : Pieces)
  deriving DecidableEq

namespace Pieces

def consGap (c : Char) : Pieces → Pieces
  | .last gap => .last (c :: gap)
  | .unterminated gap content => .unterminated (c :: gap) content
  | .tag gap content next => .tag (c :: gap) content next

def consContent (c : Char) : Pieces → Pieces
  | .last gap => .last gap
  | .unterminated gap content => .unterminated gap (c :: content)
  | .tag gap content next => .tag gap (c :: content) next

mutual

def outside : List Char → Pieces
  | '{' :: '{' :: cs => inside cs
  | c :: cs => consGap c (outside cs)
  | [] => .last []

def inside : List Char → Pieces
  | '}' :: '}' :: cs => .tag [] [] (outside cs)
  | c :: cs => consContent c (inside cs)
  | [] => .unterminated [] []

end

end Pieces

end PointerHelpers.Template
