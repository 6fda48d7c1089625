import Mathlib.Data.List.TakeWhile
import PointerHelpers.Text.Identifier
import PointerHelpers.Text.White

namespace PointerHelpers.Text

theorem Ranges.holds_iff (ranges : Ranges) (c : Char) :
    ranges.holds c = true ↔ ∃ r ∈ ranges, r.1 ≤ c.toNat ∧ c.toNat ≤ r.2 := by
  simp [holds]

theorem isNamePart_of_isWhite {c : Char} (h : isWhite c = true) : isNamePart c = false := by
  have hall : ∀ r ∈ ([(0x9, 0xD), (0x20, 0x20), (0x85, 0x85), (0xA0, 0xA0), (0x1680, 0x1680),
      (0x2000, 0x200A), (0x2028, 0x2029), (0x202F, 0x202F), (0x205F, 0x205F), (0x3000, 0x3000)] :
        Ranges), ∀ n ∈ List.range' r.1 (r.2 + 1 - r.1), isNamePart (Char.ofNat n) = false := by
    decide +kernel
  obtain ⟨r, hr, hl, hu⟩ := (Ranges.holds_iff _ c).mp h
  have hc := hall r hr c.toNat (List.mem_range'_1.mpr ⟨hl, by omega⟩)
  rwa [Char.ofNat_toNat] at hc

theorem isNamePart_of_isNameStart {c : Char} (h : isNameStart c = true) : isNamePart c = true := by
  rw [isNameStart, Bool.or_eq_true] at h
  rw [isNamePart]
  obtain h | h := h <;> simp [h]

theorem isNamePart_of_isIdentifier {cs : List Char} (h : isIdentifier cs = true) :
    ∀ c ∈ cs, isNamePart c = true := by
  cases cs with
  | nil => simp
  | cons c cs =>
    rw [isIdentifier, Bool.and_eq_true, List.all_eq_true] at h
    exact List.forall_mem_cons.mpr ⟨isNamePart_of_isNameStart h.1, h.2⟩

theorem not_mem_of_isIdentifier {cs : List Char} (h : isIdentifier cs = true) {c : Char}
    (hc : isNamePart c = false) : c ∉ cs := by
  intro hm
  rw [isNamePart_of_isIdentifier h c hm] at hc
  cases hc

theorem isWhite_of_isIdentifier {cs : List Char} (h : isIdentifier cs = true) :
    ∀ c ∈ cs, isWhite c = false := by
  intro c hm
  by_contra hw
  rw [Bool.not_eq_false] at hw
  exact not_mem_of_isIdentifier h (isNamePart_of_isWhite hw) hm

theorem dropWhile_isWhite_eq_self {cs : List Char} (h : ∀ c ∈ cs.head?, isWhite c = false) :
    cs.dropWhile isWhite = cs := by
  cases cs with
  | nil => rfl
  | cons c cs => rw [List.dropWhile_cons_of_neg (by simp [h c rfl])]

theorem dropWhile_isWhite_of_isIdentifier {cs : List Char} (h : isIdentifier cs = true)
    (rest : List Char) : (cs ++ rest).dropWhile isWhite = cs ++ rest := by
  cases cs with
  | nil => cases h
  | cons c cs =>
    have hc : isWhite c = false := isWhite_of_isIdentifier h c List.mem_cons_self
    rw [List.cons_append, List.dropWhile_cons_of_neg (by simp [hc])]

theorem trim_eq_self {cs : List Char} (hh : ∀ c ∈ cs.head?, isWhite c = false)
    (hl : ∀ c ∈ cs.getLast?, isWhite c = false) : trim cs = cs := by
  rw [trim, dropWhile_isWhite_eq_self hh, trimEnd, dropWhile_isWhite_eq_self,
    List.reverse_reverse]
  rwa [List.head?_reverse]

theorem trim_of_isIdentifier {cs : List Char} (h : isIdentifier cs = true) : trim cs = cs :=
  trim_eq_self (fun c hc => isWhite_of_isIdentifier h c (List.mem_of_mem_head? hc))
    (fun c hc => isWhite_of_isIdentifier h c (List.mem_of_mem_getLast? hc))

theorem isWhite_of_mem_getLast?_trim {cs : List Char} :
    ∀ c ∈ (trim cs).getLast?, isWhite c = false := by
  intro c hc
  rw [trim, trimEnd, List.getLast?_reverse] at hc
  have hd := List.head?_dropWhile_not isWhite (cs.dropWhile isWhite).reverse
  rw [Option.mem_def.mp hc] at hd
  simpa using hd

theorem trimEnd_isPrefix (cs : List Char) : trimEnd cs <+: cs := by
  have hs := List.reverse_prefix.mpr (List.dropWhile_suffix isWhite (l := cs.reverse))
  rwa [List.reverse_reverse] at hs

theorem trim_isInfix (cs : List Char) : trim cs <:+: cs :=
  (trimEnd_isPrefix _).isInfix.trans (List.dropWhile_suffix isWhite).isInfix

theorem isWhite_of_mem_head?_trim {cs : List Char} : ∀ c ∈ (trim cs).head?, isWhite c = false := by
  intro c hc
  obtain ⟨rest, he⟩ := trimEnd_isPrefix (cs.dropWhile isWhite)
  have hh : (cs.dropWhile isWhite).head? = some c := by
    rw [← he, List.head?_append, ← trim, Option.mem_def.mp hc, Option.some_or]
  have hd := List.head?_dropWhile_not isWhite cs
  rw [hh] at hd
  simpa using hd

theorem le_toNat_of_isNamePart {c : Char} (h : isNamePart c = true) : 0x30 ≤ c.toNat := by
  have hall : ∀ n ∈ List.range 0x30, isNamePart (Char.ofNat n) = false := by decide
  by_contra hl
  have hc := hall c.toNat (List.mem_range.mpr (Nat.lt_of_not_le hl))
  rw [Char.ofNat_toNat, h] at hc
  cases hc

theorem bounds_of_mem_uppercaseCodes {code n : Nat} (hl : 128 ≤ code) (hv : code.isValidChar)
    (h : n ∈ uppercaseCodes code) : 0x30 ≤ n ∧ n.isValidChar := by
  have hexp : ∀ e ∈ expansions, ∀ n ∈ e.2, 0x30 ≤ n ∧ n.isValidChar := by decide +kernel
  have hrun : ∀ r ∈ caseRuns, 0x30 ≤ r.first + r.shift ∧
      (r.last + r.shift < 0xD800 ∨ 0xDFFF < r.first + r.shift ∧ r.last + r.shift < 0x110000) := by
    decide +kernel
  obtain ⟨codes, he, hc⟩ | ⟨-, ⟨run, hr, hh, hc⟩ | hc⟩ := uppercaseCodes_cases code
  · exact hexp (code, codes) he n (hc ▸ h)
  · have hm := hrun run hr
    simp only [CaseRun.holds, Bool.and_eq_true, Nat.ble_eq] at hh
    rw [hc] at h
    rw [List.mem_singleton.mp h, CaseRun.apply, Nat.isValidChar]
    omega
  · rw [hc] at h
    rw [List.mem_singleton.mp h]
    exact ⟨by omega, hv⟩

theorem toNat_ofNat_of_isValidChar {n : Nat} (h : n.isValidChar) : (Char.ofNat n).toNat = n := by
  rw [Char.ofNat, dif_pos h]
  rfl

theorem le_toNat_of_mem_uppercase {c : Char} (h : isNamePart c = true) :
    ∀ d ∈ uppercase c, 0x30 ≤ d.toNat := by
  have hall : ∀ n ∈ List.range 128, isNamePart (Char.ofNat n) = true →
      0x30 ≤ (Char.ofNat n).toUpper.toNat := by decide +kernel
  intro d hd
  rw [uppercase] at hd
  by_cases hc : c.toNat < 128
  · rw [if_pos hc, List.mem_singleton] at hd
    have hu := hall c.toNat (List.mem_range.mpr hc)
    rw [Char.ofNat_toNat] at hu
    rw [hd]
    exact hu h
  · rw [if_neg hc] at hd
    obtain ⟨n, hn, rfl⟩ := List.mem_map.mp hd
    obtain ⟨hb, hv⟩ := bounds_of_mem_uppercaseCodes (Nat.le_of_not_lt hc) c.valid hn
    rwa [toNat_ofNat_of_isValidChar hv]

/-- Capitals that a name begins with may be no letters themselves, but they are no control
characters and no brackets. -/
theorem le_toNat_of_mem_capitalize {cs : List Char} (h : isIdentifier cs = true) :
    ∀ c ∈ capitalize cs, 0x30 ≤ c.toNat := by
  cases cs with
  | nil => simp [capitalize]
  | cons c cs =>
    have hp := isNamePart_of_isIdentifier h
    rw [List.forall_mem_cons] at hp
    intro d hd
    rw [capitalize, List.mem_append] at hd
    obtain hd | hd := hd
    · exact le_toNat_of_mem_uppercase hp.1 d hd
    · exact le_toNat_of_isNamePart (hp.2 d hd)

end PointerHelpers.Text
