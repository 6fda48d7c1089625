namespace PointerHelpers.Template

/-- The two kinds of block: a body for each item of a list, and one for a value that is present. -/
inductive Block where
  | each
  | when
  deriving DecidableEq

def Block.keyword : Block → String
  | .each => "each"
  | .when => "if"

def Block.ofKeyword? : List Char → Option Block
  | ['e', 'a', 'c', 'h'] => some .each
  | ['i', 'f'] => some .when
  | _ => none

inductive Node where
  | text (content : String)
  | value (name : String)
  | inclusion (template : String)
  | block (kind : Block) (name : String) (body : List Node)

end PointerHelpers.Template
