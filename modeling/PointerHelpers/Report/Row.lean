namespace PointerHelpers.Report

inductive Style where
  | plain
  | heading
  | wrong
  | frame
  deriving DecidableEq

namespace Style

def begin : Style → String
  | .plain => ""
  | .heading => "\x1b[1m"
  | .wrong => "\x1b[1m\x1b[91m"
  | .frame => "\x1b[1m\x1b[94m"

def finish : Style → String
  | .plain => ""
  | _ => "\x1b[0m"

end Style

abbrev Row := List (Char × Style)

def ellipsis : List Char := ['.', '.', '.']

namespace Row

def blank (length : Nat) : Row := List.replicate length (' ', .plain)

/-- Write over the cells from a column on. Cells before the text that are missing are blank. -/
def put (row : Row) (column : Nat) (style : Style) (text : List Char) : Row :=
  if text = [] then row
  else
    (row ++ blank (column - row.length)).take column ++ text.map (·, style) ++
      row.drop (column + text.length)

def append (row : Row) (style : Style) (text : List Char) : Row := row ++ text.map (·, style)

def elide (row : Row) (start stop : Nat) : Row :=
  if stop ≤ row.length then
    row.take start ++ ellipsis.map (·, .frame) ++ row.drop stop
  else row

def paint (style : Style) : Row → List Char
  | [] => style.finish.toList
  | (c, next) :: rest =>
    if next = style then c :: paint style rest
    else style.finish.toList ++ next.begin.toList ++ c :: paint next rest

def text (colored : Bool) (row : Row) : String :=
  .ofList (if colored then paint .plain row else row.map (·.1))

end Row

end PointerHelpers.Report
