namespace PointerHelpers.Text

/-- Give each character of a text in turn a partner: the first equal one of another text that has
none yet and stands no more than `reach` places away. The answer holds the places of the
partners. -/
def partners (reach : Nat) (other : List Char) (place : Nat) (found : List Nat) :
    List Char → List Nat
  | [] => found
  | c :: cs =>
    let partner := (List.range other.length).find? fun j =>
      place ≤ j + reach && j ≤ place + reach && !found.contains j && other[j]? == some c
    partners reach other (place + 1) (found ++ partner.toList) cs

/-- How similar two texts are, from 0 to 1: the mean of how much of the one has a partner, how much
of the other, and how much of that is in order. Two characters that changed places count as one.
Every step is rounded, which decides between texts that are equally similar in exact terms. -/
def similarity (text other : List Char) : Float :=
  let found := partners (max text.length other.length / 2 - 1) other 0 [] text
  let inOrder := (List.range other.length).filter found.contains
  let moved := ((found.zip inOrder).filter fun (i, j) => other[i]? != other[j]?).length / 2
  let paired := found.length.toFloat
  if found = [] then 0
  else (paired / text.length.toFloat + paired / other.length.toFloat
    + (found.length - moved).toFloat / paired) / 3

end PointerHelpers.Text
