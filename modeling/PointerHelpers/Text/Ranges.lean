namespace PointerHelpers.Text

abbrev Ranges := List (Nat × Nat)

def Ranges.holds (ranges : Ranges) (c : Char) : Bool :=
  ranges.any (fun r => Nat.ble r.1 c.toNat && Nat.ble c.toNat r.2)

end PointerHelpers.Text
