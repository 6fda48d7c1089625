namespace PointerHelpers.Text.Utf8

def replacement : Char := '\uFFFD'

/-- The bytes that may come second. Some are left out, as a shorter form or no character has the
codes that they would lead to. -/
def second (first : Nat) : Nat × Nat :=
  if first = 0xE0 then (0xA0, 0xBF)
  else if first = 0xED then (0x80, 0x9F)
  else if first = 0xF0 then (0x90, 0xBF)
  else if first = 0xF4 then (0x80, 0x8F)
  else (0x80, 0xBF)

/-- What the first byte of a character says: the bits it gives to the code point, and the ranges in
which the bytes after it lie. -/
def leading (first : Nat) : Option (Nat × List (Nat × Nat)) :=
  if first < 0x80 then some (first, [])
  else if first < 0xC2 then none
  else if first < 0xE0 then some (first - 0xC0, [second first])
  else if first < 0xF0 then some (first - 0xE0, [second first, (0x80, 0xBF)])
  else if first < 0xF5 then some (first - 0xF0, [second first, (0x80, 0xBF), (0x80, 0xBF)])
  else none

def follow (code : Nat) : List (Nat × Nat) → List UInt8 → Option Nat × List UInt8
  | [], rest => (some code, rest)
  | _ :: _, [] => (none, [])
  | (least, most) :: ranges, byte :: rest =>
    if least ≤ byte.toNat && byte.toNat ≤ most then
      follow (code * 64 + (byte.toNat - 0x80)) ranges rest
    else (none, byte :: rest)

/-- The first character and the bytes after it. Bytes that begin a character and do not finish it
are replaced together, up to the first that cannot belong to it. -/
def next (first : UInt8) (rest : List UInt8) : Char × List UInt8 :=
  match leading first.toNat with
  | none => (replacement, rest)
  | some (code, ranges) =>
    match follow code ranges rest with
    | (none, rest) => (replacement, rest)
    | (some code, rest) => (Char.ofNat code, rest)

theorem length_follow_le (code : Nat) (ranges : List (Nat × Nat)) (rest : List UInt8) :
    (follow code ranges rest).2.length ≤ rest.length := by
  fun_induction follow code ranges rest with
  | case1 | case2 | case4 => simp
  | case3 _ _ _ _ _ _ _ ih => exact Nat.le_succ_of_le ih

theorem length_next_le (first : UInt8) (rest : List UInt8) :
    (next first rest).2.length ≤ rest.length := by
  rw [next]
  split
  · exact Nat.le_refl _
  · rename_i code ranges _
    have h := length_follow_le code ranges rest
    split <;> simp_all

def decodeAfter (before : String) : List UInt8 → String
  | [] => before
  | first :: rest => decodeAfter (before.push (next first rest).1) (next first rest).2
termination_by content => content.length
decreasing_by exact Nat.lt_succ_of_le (length_next_le first rest)

def decode (content : List UInt8) : String := decodeAfter "" content

end PointerHelpers.Text.Utf8
