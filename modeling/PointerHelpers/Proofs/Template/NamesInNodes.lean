import PointerHelpers.Template.Node

namespace PointerHelpers.Template

mutual

def Node.parts : Node → List Node
  | .text content => [.text content]
  | .value name => [.value name]
  | .inclusion template => [.inclusion template]
  | .block kind name body => .block kind name body :: parts body

def parts : List Node → List Node
  | [] => []
  | node :: rest => node.parts ++ parts rest

end

mutual

def Node.inclusions : Node → List String
  | .text _ | .value _ => []
  | .inclusion template => [template]
  | .block _ _ body => inclusions body

def inclusions : List Node → List String
  | [] => []
  | node :: rest => node.inclusions ++ inclusions rest

end

mutual

def Node.mentions : Node → List String
  | .text _ | .inclusion _ => []
  | .value name => [name]
  | .block _ name body => name :: mentions body

def mentions : List Node → List String
  | [] => []
  | node :: rest => node.mentions ++ mentions rest

end

mutual

theorem mem_inclusions_node_iff (included : String) : ∀ node : Node,
    included ∈ node.inclusions ↔ .inclusion included ∈ node.parts
  | .text _ | .value _ | .inclusion _ => by simp [Node.inclusions, Node.parts]
  | .block _ _ body => by simp [Node.inclusions, Node.parts, mem_inclusions_iff included body]

theorem mem_inclusions_iff (included : String) : ∀ nodes : List Node,
    included ∈ inclusions nodes ↔ .inclusion included ∈ parts nodes
  | [] => by simp [inclusions, parts]
  | node :: rest => by
    rw [inclusions, parts, List.mem_append, List.mem_append, mem_inclusions_node_iff included node,
      mem_inclusions_iff included rest]

end

end PointerHelpers.Template
