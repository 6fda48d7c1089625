namespace PointerHelpers.Text

def total (size : Char → Nat) (cs : List Char) : Nat :=
  cs.foldr (fun c rest => size c + rest) 0

theorem total_append (size : Char → Nat) (cs ds : List Char) :
    total size (cs ++ ds) = total size cs + total size ds := by
  induction cs with
  | nil => rw [List.nil_append, total, total, List.foldr_nil, Nat.zero_add]
  | cons c cs ih =>
    rw [List.cons_append, total, List.foldr_cons, ← total, ih, ← Nat.add_assoc]
    rfl

end PointerHelpers.Text
