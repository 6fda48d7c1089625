import PointerHelpers.Template.Node

namespace PointerHelpers.Template

inductive Fault where
  | unterminated
  | emptyTag
  | namelessInclusion
  | unknownBlock (keyword : String)
  | namelessBlock (kind : Block)
  | notAName (content : String)
  | unopened (keyword : String)
  | mismatched (expected : Block) (keyword : String)
  | unclosed (kind : Block) (name : String)
  deriving DecidableEq

def Fault.message : Fault → String
  | .unterminated => "unterminated tag"
  | .emptyTag => "empty tag"
  | .namelessInclusion => "include tag needs a template name"
  | .unknownBlock keyword => "unknown block `#" ++ keyword ++ "`"
  | .namelessBlock kind => "block `#" ++ kind.keyword ++ "` needs a value name"
  | .notAName content => "`" ++ content ++ "` is not a value name"
  | .unopened keyword => "closing tag `/" ++ keyword ++ "` has no matching opening tag"
  | .mismatched expected keyword =>
    "expected closing tag `/" ++ expected.keyword ++ "`, found `/" ++ keyword ++ "`"
  | .unclosed kind name => "block `#" ++ kind.keyword ++ " " ++ name ++ "` is never closed"

/-- Bytes `start` up to and without `stop` of the UTF-8 form of a text. -/
structure Span where
  start : Nat
  stop : Nat
  deriving DecidableEq

structure Mistake where
  fault : Fault
  span : Span
  deriving DecidableEq

end PointerHelpers.Template
