import PointerHelpers.Text.Split

namespace PointerHelpers.Files

open Text

structure Path where
  text : String
  deriving DecidableEq

namespace Path

def isAbsolute (path : Path) : Bool := path.text.toList.head? == some '/'

/-- The path of a file in a directory. An absolute name stands for itself, and a directory gets a
slash after it unless it is empty or has one. -/
def join (directory : Path) (file : String) : Path :=
  if (Path.mk file).isAbsolute || directory.text = "" then ⟨file⟩
  else if directory.text.toList.getLast? == some '/' then ⟨directory.text ++ file⟩
  else ⟨directory.text ++ "/" ++ file⟩

def segments (path : Path) : List String :=
  ((splitOn '/' path.text.toList).filter (!·.isEmpty)).map .ofList

/-- A dot counts only where a relative path begins with it. -/
def components (path : Path) : List String :=
  match path.isAbsolute, path.segments with
  | false, "." :: rest => "." :: rest.filter (· != ".")
  | _, segments => segments.filter (· != ".")

def equiv (path other : Path) : Bool :=
  path.isAbsolute == other.isAbsolute && path.components == other.components

end Path

end PointerHelpers.Files
