import PointerHelpers.Template.Tag

namespace PointerHelpers.Template

def braced (content : String) : String := r"{{" ++ content ++ r"}}"

def Tag.print : Tag → String
  | .value name => braced name
  | .inclusion template => braced ("> " ++ template ++ " ")
  | .opening kind name => braced ("#" ++ kind.keyword ++ " " ++ name)
  | .closing keyword => braced ("/" ++ keyword)

mutual

def printNode : Node → String
  | .text content => content
  | .value name => (Tag.value name).print
  | .inclusion template => (Tag.inclusion template).print
  | .block kind name body =>
    (Tag.opening kind name).print ++ printNodes body ++ (Tag.closing kind.keyword).print

def printNodes : List Node → String
  | [] => ""
  | node :: rest => printNode node ++ printNodes rest

end

end PointerHelpers.Template
