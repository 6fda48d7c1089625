import PointerHelpers.Report.Excerpt
import PointerHelpers.Template.TemplateSet

namespace PointerHelpers.Report

open Template Text

def reportWidth : Nat := 140

/-- Where the parts of the rows of an excerpt stand: the bar beside the line numbers, the bar of a
mark over several lines, and the code. -/
structure Columns where
  numbers : Nat
  several : Bool

namespace Columns

def bar (columns : Columns) : Nat := columns.numbers + 1

def side (columns : Columns) : Nat := columns.numbers + 3

def code (columns : Columns) : Nat := columns.side + if columns.several then 2 else 0

def emptyRow (columns : Columns) : Row := (Row.blank columns.bar).append .frame ['|']

def numberedRow (columns : Columns) (number : Nat) : Row :=
  let digits := (toString number).toList
  columns.emptyRow.put 0 .frame (List.replicate (columns.numbers - digits.length) ' ' ++ digits)

end Columns

def extentOf (label : List Char) (marks : List (Line × Mark)) : Extent :=
  let indents := (marks.filter (!·.1.content.all isWhite)).map fun (line, _) =>
    total (fun c => if c = '\t' then tabWidth else 1) (line.content.takeWhile isWhite)
  let places := marks.filterMap (·.2.columns?)
  let ends := marks.filterMap fun (_, mark) => mark.columns?.map fun (_, stop) =>
    stop + if mark.hasLabel then displayLength label + 1 else 0
  { indent := indents.min?.getD 0
    length := (marks.map (displayLength ·.1.content)).max?.getD 0
    first := (places.map (·.1)).min?.getD 0
    last := (places.map (·.2)).max?.getD 0
    labelEnd := ends.max?.getD 0 }

variable (columns : Columns) (window : Window) (label : List Char)

/-- A mark of several lines that begins with its line needs no row of its own. -/
def beginsLine (code : List Char) (start : Nat) : Bool := (code.take start).all isWhite

/-- The rows of a line and of the mark on it. A mark that is much longer than the window is cut in
its middle. -/
def rowsOfMark (line : Line) (mark : Mark) : List Row :=
  let content := visible line.content
  let (row, left) := window.draw (columns.numberedRow line.number) columns.code content
  let column (display : Nat) : Nat := columns.code + display - left
  let caret (row : Row) (display : Nat) : Row :=
    (row.put (columns.side + 1) .wrong
      (List.replicate (column display - (columns.side + 1)) '_')).put (column display) .wrong ['^']
  match mark with
  | .whole start stop =>
    let carets := List.replicate (stop - start) '^'
    let below :=
      (columns.emptyRow.put (column start) .wrong carets).put (column (stop + 1)) .wrong label
    if 2 * window.width < stop - start then
      let kept := window.width / 3
      [row, below].map (·.elide (column start + kept) (column stop - kept))
    else [row, below]
  | .opening start =>
    if beginsLine content start then [row.put columns.side .wrong ['/']]
    else [row, caret (columns.emptyRow.put columns.side .wrong [' ']) start]
  | .middle => [row.put columns.side .wrong ['|']]
  | .closing stop =>
    [row.put columns.side .wrong ['|'],
      (caret (columns.emptyRow.put columns.side .wrong ['|']) (stop - 1)).put
        (column (stop + 1)) .wrong label]

/-- The rows between two lines of a mark. A single line is shown, more are left out. -/
def rowsBetween (lines : List Line) (before after : Nat) : List Row :=
  if after ≤ before + 1 then []
  else if after = before + 2 then
    (lines.filter (·.number == before + 1)).map fun line =>
      (window.draw (columns.numberedRow line.number) columns.code (visible line.content)).1.put
        columns.side .wrong ['|']
  else [((Row.blank 0).append .frame ellipsis).put columns.side .wrong ['|']]

def rowsOfMarks (lines : List Line) : List (Line × Mark) → List Row
  | [] => []
  | [(line, mark)] => rowsOfMark columns window label line mark
  | (line, mark) :: (next, nextMark) :: rest =>
    rowsOfMark columns window label line mark ++
      rowsBetween columns window lines line.number next.number ++
      rowsOfMarks lines ((next, nextMark) :: rest)

def titleRows (message : List Char) : List Row :=
  match splitOn '\n' (visible message) with
  | [] => []
  | first :: rest =>
    (((Row.blank 0).append .wrong "error".toList).append .heading (": ".toList ++ first)) ::
      rest.map fun line => (Row.blank "error: ".length).append .heading line

def placeRow (template : String) (place : Place) : Row :=
  ((Row.blank columns.numbers).append .frame "--> ".toList).append .plain
    (template ++ ":" ++ toString place.line.number ++ ":" ++
      toString (place.before.length + 1)).toList

def rows (template text : String) (mistake : Mistake) : List Row :=
  let lines := linesOf text
  let message := mistake.fault.message.toList
  let marks := marksOf lines mistake.span
  let lastNumber := (marks.map (·.1.number)).max?.getD 1
  let columns : Columns := ⟨(toString lastNumber).length, marks.length ≠ 1⟩
  let window := Window.of (reportWidth - columns.code) (extentOf message marks)
  titleRows message ++
    [placeRow columns template (placeOf lines mistake.span.start), columns.emptyRow] ++
    rowsOfMarks columns window message lines marks

/-- The report on a template error, with terminal colours or without. A name that is defined twice
has no place in a text, so that its message is all. -/
def render (colored : Bool) : TemplateError → String
  | .malformed template mistake text =>
    "\n".intercalate ((rows template text mistake).map (Row.text colored))
  | error => error.message

end PointerHelpers.Report
