import PointerHelpers.Text.Ranges

namespace PointerHelpers.Text

/-- The Unicode property White_Space. -/
def isWhite (c : Char) : Bool :=
  Ranges.holds [(0x9, 0xD), (0x20, 0x20), (0x85, 0x85), (0xA0, 0xA0), (0x1680, 0x1680),
    (0x2000, 0x200A), (0x2028, 0x2029), (0x202F, 0x202F), (0x205F, 0x205F), (0x3000, 0x3000)] c

def isControl (c : Char) : Bool :=
  Ranges.holds [(0x0, 0x1F), (0x7F, 0x9F)] c

def trimEnd (cs : List Char) : List Char := (cs.reverse.dropWhile isWhite).reverse

def trim (cs : List Char) : List Char := trimEnd (cs.dropWhile isWhite)

end PointerHelpers.Text
