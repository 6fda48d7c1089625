import PointerHelpers.Report.Source
import PointerHelpers.Report.Window

namespace PointerHelpers.Report

open Template Text

/-- What a report shows at a line: the whole marked text, where it begins, that it goes on, or where
it ends. A mark ends before the column `stop`. -/
inductive Mark where
  | whole (start stop : Nat)
  | opening (start : Nat)
  | middle
  | closing (stop : Nat)

namespace Mark

def columns? : Mark → Option (Nat × Nat)
  | .whole start stop => some (start, stop)
  | .opening start => some (start, start + 1)
  | .middle => none
  | .closing stop => some (stop - 1, stop)

def hasLabel : Mark → Bool
  | .whole _ _ | .closing _ => true
  | .opening _ | .middle => false

end Mark

/-- A line says little if it is blank, a bracket or a comment that is no documentation. -/
def saysLittle (content : List Char) : Bool :=
  let content := trim content
  (['/', '/'].isPrefixOf content &&
    !(['/', '/', '/'].isPrefixOf content || ['/', '/', '!'].isPrefixOf content)) ||
  content == [] || [r"{", r"}", "(", ")", "[", "]"].contains (.ofList content)

/-- Lines of a marked text after its first: the next three and the last but one, without those at
the end of either that say little, and the last. A mark that covers what ends the last line goes
`past` it by a column. -/
def marksBelow (lines : List Line) (first last : Place) (past : Nat) : List (Line × Mark) :=
  let start := first.line.number
  let stop := last.line.number
  let near := min (start + 4) stop
  let upTo :=
    ((lines.filter fun line => start ≤ line.number && line.number < near &&
      !saysLittle line.content).getLast?.map (·.number)).getD start
  let early := lines.filter fun line => start < line.number && line.number ≤ upTo
  let late := lines.filter fun line =>
    line.number + 1 = stop && near < line.number && !saysLittle line.content
  (early ++ late).map (·, .middle) ++
    [(last.line, .closing (max 1 (displayLength last.before + past)))]

def marksOf (lines : List Line) (span : Span) : List (Line × Mark) :=
  let first := placeOf lines span.start
  let last := placeOf lines span.stop
  let start := displayLength first.before
  if first.line.number = last.line.number then
    [(first.line, .whole start (max (start + 1) (displayLength last.before)))]
  else
    let past := if last.line.contentStop < span.stop then 1 else 0
    (first.line, .opening start) :: marksBelow lines first last past

end PointerHelpers.Report
