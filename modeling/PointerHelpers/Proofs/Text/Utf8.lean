import Mathlib.Tactic.SplitIfs
import PointerHelpers.Text.Utf8

namespace PointerHelpers.Text.Utf8

variable {ranges : List (Nat × Nat)} {rest content : List UInt8}

/-- The last six bits of a number, as the byte that continues a character with them. -/
theorem follow_cons {n code : Nat} {range : Nat × Nat} (hc : code = n / 64)
    (hl : range.1 ≤ n % 64 + 128) (hm : n % 64 + 128 ≤ range.2) :
    follow code (range :: ranges) (UInt8.ofNat (n % 64 + 128) :: rest) =
      follow n ranges rest := by
  have hb : (UInt8.ofNat (n % 64 + 128)).toNat = n % 64 + 128 :=
    UInt8.toNat_ofNat_of_lt' (show _ < 256 by omega)
  have hn : code * 64 + (n % 64 + 128 - 0x80) = n := by omega
  rw [follow, hb, hn, if_pos (by simp [hl, hm])]

theorem next_of_leading {n first code : Nat} (hf : first < 256)
    (hl : leading first = some (code, ranges)) (h : follow code ranges rest = (some n, content)) :
    next (UInt8.ofNat first) rest = (Char.ofNat n, content) := by
  rw [next, UInt8.toNat_ofNat_of_lt' hf, hl]
  simp only [h]

theorem next_one {n : Nat} (h : n < 0x80) :
    next (UInt8.ofNat n) content = (Char.ofNat n, content) := by
  have hl : leading n = some (n, []) := by
    rw [leading, if_pos h]
  exact next_of_leading (by omega) hl rfl

theorem next_two {n : Nat} (hl : 0x80 ≤ n) (hu : n < 0x800) :
    next (UInt8.ofNat (n / 64 % 32 + 192)) (UInt8.ofNat (n % 64 + 128) :: content) =
      (Char.ofNat n, content) := by
  have hf : leading (n / 64 % 32 + 192) = some (n / 64, [(0x80, 0xBF)]) := by
    have hd : n / 64 % 32 + 192 - 0xC0 = n / 64 := by omega
    rw [leading, if_neg (by omega), if_neg (by omega), if_pos (by omega), hd, second,
      if_neg (by omega), if_neg (by omega), if_neg (by omega), if_neg (by omega)]
  apply next_of_leading (by omega) hf
  rw [follow_cons rfl (by simp) (by simp only; omega), follow]

theorem next_three {n : Nat} (hl : 0x800 ≤ n) (hu : n < 0x10000)
    (hs : n < 0xD800 ∨ 0xDFFF < n) :
    next (UInt8.ofNat (n / 4096 % 16 + 224))
        (UInt8.ofNat (n / 64 % 64 + 128) :: UInt8.ofNat (n % 64 + 128) :: content) =
      (Char.ofNat n, content) := by
  have hf : leading (n / 4096 % 16 + 224) =
      some (n / 64 / 64, [second (n / 4096 % 16 + 224), (0x80, 0xBF)]) := by
    have hd : n / 4096 % 16 + 224 - 0xE0 = n / 64 / 64 := by omega
    rw [leading, if_neg (by omega), if_neg (by omega), if_neg (by omega), if_pos (by omega), hd]
  have hm : (second (n / 4096 % 16 + 224)).1 ≤ n / 64 % 64 + 128 ∧
      n / 64 % 64 + 128 ≤ (second (n / 4096 % 16 + 224)).2 := by
    rw [second]
    split_ifs <;> simp only <;> omega
  apply next_of_leading (by omega) hf
  rw [follow_cons rfl hm.1 hm.2, follow_cons rfl (by simp) (by simp only; omega), follow]

theorem next_four {n : Nat} (hl : 0x10000 ≤ n) (hu : n < 0x110000) :
    next (UInt8.ofNat (n / 262144 % 8 + 240)) (UInt8.ofNat (n / 4096 % 64 + 128) ::
        UInt8.ofNat (n / 64 % 64 + 128) :: UInt8.ofNat (n % 64 + 128) :: content) =
      (Char.ofNat n, content) := by
  have hf : leading (n / 262144 % 8 + 240) = some (n / 4096 / 64,
      [second (n / 262144 % 8 + 240), (0x80, 0xBF), (0x80, 0xBF)]) := by
    have hd : n / 262144 % 8 + 240 - 0xF0 = n / 4096 / 64 := by omega
    rw [leading, if_neg (by omega), if_neg (by omega), if_neg (by omega), if_neg (by omega),
      if_pos (by omega), hd]
  have hm : (second (n / 262144 % 8 + 240)).1 ≤ n / 4096 % 64 + 128 ∧
      n / 4096 % 64 + 128 ≤ (second (n / 262144 % 8 + 240)).2 := by
    rw [second]
    split_ifs <;> simp only <;> omega
  apply next_of_leading (by omega) hf
  rw [follow_cons rfl hm.1 hm.2,
    follow_cons (n := n / 64) (by omega) (by simp) (by simp only; omega),
    follow_cons rfl (by simp) (by simp only; omega), follow]

theorem next_utf8EncodeChar (c : Char) : ∃ first rest, String.utf8EncodeChar c = first :: rest ∧
    ∀ content, next first (rest ++ content) = (c, content) := by
  have hv : c.val.toNat < 0xD800 ∨ 0xDFFF < c.val.toNat ∧ c.val.toNat < 0x110000 := c.valid
  have hc : Char.ofNat c.val.toNat = c := Char.ofNat_toNat c
  rw [String.utf8EncodeChar]
  split_ifs with h₁ h₂ h₃
  · refine ⟨_, _, rfl, fun content => ?_⟩
    rw [List.nil_append, next_one (by omega), hc]
  · refine ⟨_, _, rfl, fun content => ?_⟩
    rw [List.singleton_append, next_two (by omega) (by omega), hc]
  · refine ⟨_, _, rfl, fun content => ?_⟩
    rw [List.cons_append, List.singleton_append, next_three (by omega) (by omega) (by omega), hc]
  · refine ⟨_, _, rfl, fun content => ?_⟩
    rw [List.cons_append, List.cons_append, List.singleton_append,
      next_four (by omega) (by omega), hc]

theorem decodeAfter_flatMap (before : String) (cs : List Char) :
    decodeAfter before (cs.flatMap String.utf8EncodeChar) = before ++ String.ofList cs := by
  induction cs generalizing before with
  | nil => rw [List.flatMap_nil, decodeAfter, String.ofList_nil, String.append_empty]
  | cons c cs ih =>
    obtain ⟨first, rest, he, hn⟩ := next_utf8EncodeChar c
    rw [List.flatMap_cons, he, List.cons_append, decodeAfter, hn, ih]
    rw [← String.toList_inj]
    simp

end PointerHelpers.Text.Utf8
