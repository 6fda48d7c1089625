import PointerHelpers.Template.Token

namespace PointerHelpers.Template

structure OpenBlock where
  kind : Block
  name : String
  span : Span
  /-- The nodes beside the block and before it, the latest first. -/
  before : List Node

/-- Build the nodes of a token list inside the open blocks, innermost first. The nodes found so far
in the innermost one are given with the latest first. -/
def build : List Token → List OpenBlock → List Node → Except Mistake (List Node)
  | [], [], nodes => .ok nodes.reverse
  | [], opened :: _, _ => .error ⟨.unclosed opened.kind opened.name, opened.span⟩
  | ⟨_, .text content⟩ :: rest, stack, nodes => build rest stack (.text content :: nodes)
  | ⟨span, .fault fault⟩ :: _, _, _ => .error ⟨fault, span⟩
  | ⟨span, .tag tag⟩ :: rest, stack, nodes =>
    match tag, stack with
    | .value name, stack => build rest stack (.value name :: nodes)
    | .inclusion template, stack => build rest stack (.inclusion template :: nodes)
    | .opening kind name, stack => build rest (⟨kind, name, span, nodes⟩ :: stack) []
    | .closing keyword, [] => .error ⟨.unopened keyword, span⟩
    | .closing keyword, opened :: stack =>
      if opened.kind.keyword = keyword then
        build rest stack (.block opened.kind opened.name nodes.reverse :: opened.before)
      else
        .error ⟨.mismatched opened.kind keyword, span⟩

/-- The nodes of a template text, or the leftmost mistake in it. A block that is never closed is
reported only when no tag is wrong. -/
def parse (text : String) : Except Mistake (List Node) :=
  build (Token.scan text) [] []

end PointerHelpers.Template
