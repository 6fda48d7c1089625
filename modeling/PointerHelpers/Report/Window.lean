import PointerHelpers.Report.Display
import PointerHelpers.Report.Row
import PointerHelpers.Text.White

namespace PointerHelpers.Report

open Text

structure Window where
  left : Nat
  right : Nat
  width : Nat

/-- What a window has to show: how far the code is indented, how long it is, the columns of the
marks and the column where their labels end. -/
structure Extent where
  indent : Nat
  length : Nat
  first : Nat
  last : Nat
  labelEnd : Nat

def margin : Nat := 6

/-- Choose the columns to show when there is room for `width`. Deep indentation is cut off, but only
up to the marks; code that is still too long is cut around the marks and their labels, as far as
these fit. -/
def Window.of (width : Nat) (extent : Extent) : Window :=
  let indent := min extent.indent extent.first - margin
  let first := extent.first - margin
  let last := extent.last + margin
  let labelEnd := extent.labelEnd + margin
  let left := if 20 < indent then indent - 16 else 0
  let right := max extent.length left
  if right - left ≤ width then ⟨left, right, width⟩
  else if labelEnd - indent ≤ width then ⟨indent, indent + width, width⟩
  else if labelEnd - first ≤ width then
    let left := first - (width - (labelEnd - first)) / 2
    ⟨left, left + width, width⟩
  else if last - first ≤ width then
    let left := first - (width - (last - first)) / 5 * 2
    ⟨left, left + width, width⟩
  else ⟨first, last, width⟩

def takeColumns (columns : Nat) : List Char → List Char
  | [] => []
  | c :: cs =>
    if displayWidth c ≤ columns then c :: takeColumns (columns - displayWidth c) cs else []

def cover (columns : Nat) : List Char → List Char
  | [] => []
  | c :: cs => if columns = 0 then [] else c :: cover (columns - displayWidth c) cs

namespace Window

/-- Put code into a row from a column on, with dots where it is cut off. A wide character at the
left edge of the window is cut off as a whole. The answer is the row and the number of columns by
which the code moved to the left. -/
def draw (window : Window) (row : Row) (column : Nat) (code : List Char) : Row × Nat :=
  let length := displayLength code
  let left := min window.left length
  let right := if length - window.left ≤ window.width then length else min length window.right
  let dropped := cover left code
  let code := takeColumns (right - left) (code.drop dropped.length)
  let hidden := if 0 < window.left then cover ellipsis.length code else []
  let start := column + displayLength hidden
  let shown := code.drop hidden.length
  let row := if 0 < window.left then row.put column .frame ellipsis else row
  let row := row.put start .plain shown
  let tail := cover ellipsis.length code.reverse
  let row :=
    if right < length then row.put (start + shown.length - tail.length) .frame ellipsis else row
  (row, displayLength dropped)

end Window

end PointerHelpers.Report
