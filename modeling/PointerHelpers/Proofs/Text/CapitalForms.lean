import PointerHelpers.Proofs.Text.Capitals

namespace PointerHelpers.Text

/-- Whether the upper case of one run is outside another: below or above it, at its odd places, or
one code point that it does not hold. -/
def CaseRun.avoids (run other : CaseRun) : Bool :=
  let first := run.apply run.first
  let last := run.apply run.last
  Nat.blt last other.first || Nat.blt other.last first ||
    (run.stride == 2 && other.stride == 2 && Nat.beq (first % 2) ((other.first + 1) % 2)) ||
    (run.first == run.last && !other.holds first)

def CaseRun.isApart (run : CaseRun) (first last : Nat) : Bool :=
  Nat.blt (run.apply run.last) first || Nat.blt last (run.apply run.first)

namespace CaseRun

variable {run : CaseRun} {code : Nat}

theorem holds_iff (run : CaseRun) (code : Nat) :
    run.holds code = true ↔
      run.first ≤ code ∧ code ≤ run.last ∧ (code - run.first) % run.stride = 0 := by
  simp [holds, and_assoc]

theorem apply_le_apply {other : Nat} (h : code ≤ other) : run.apply code ≤ run.apply other := by
  simp only [apply]
  omega

theorem holds_apply_of_avoids {other : CaseRun} (hr : 0 ≤ run.first + run.shift)
    (ha : run.avoids other = true) (hh : run.holds code = true) :
    other.holds (run.apply code) = false := by
  obtain ⟨hfirst, hlast, hplace⟩ := (holds_iff run code).mp hh
  have hlow : run.apply run.first ≤ run.apply code := apply_le_apply hfirst
  have hhigh : run.apply code ≤ run.apply run.last := apply_le_apply hlast
  simp only [avoids, Bool.or_eq_true, Bool.and_eq_true, Nat.blt_eq, beq_iff_eq, Nat.beq_eq,
    Bool.not_eq_true'] at ha
  obtain ((habove | hbelow) | ⟨⟨hstride, hstride'⟩, hodd⟩) | ⟨hone, hn⟩ := ha
  · rw [Bool.eq_false_iff, ne_eq, holds_iff]
    omega
  · rw [Bool.eq_false_iff, ne_eq, holds_iff]
    omega
  · rw [Bool.eq_false_iff, ne_eq, holds_iff, hstride']
    rw [hstride] at hplace
    simp only [apply] at hodd ⊢
    omega
  · obtain rfl : code = run.first := by omega
    exact hn

theorem apply_ne_of_isApart {first last : Nat} (ha : run.isApart first last = true)
    (hh : run.holds code = true) : run.apply code < first ∨ last < run.apply code := by
  obtain ⟨hfirst, hlast, -⟩ := (holds_iff run code).mp hh
  have hlow : run.apply run.first ≤ run.apply code := apply_le_apply hfirst
  have hhigh : run.apply code ≤ run.apply run.last := apply_le_apply hlast
  simp only [isApart, Bool.or_eq_true, Nat.blt_eq] at ha
  omega

end CaseRun

theorem uppercase_of_apply {run : CaseRun} (hr : run ∈ caseRuns) {code : Nat}
    (hh : run.holds code = true) (hv : (run.apply code).isValidChar) :
    uppercase (Char.ofNat (run.apply code)) = [Char.ofNat (run.apply code)] := by
  -- No run leads to a code point that a table maps, nor to a small letter below the tables.
  have hall : ∀ run ∈ caseRuns, 0 ≤ run.first + run.shift ∧
      caseRuns.all run.avoids = true ∧
      (expansions.all fun e => run.isApart e.1 e.1) = true ∧ run.isApart 97 122 = true := by
    decide +kernel
  have hascii : ∀ n ∈ List.range 128, n < 97 ∨ 122 < n →
      (Char.ofNat n).toUpper = Char.ofNat n := by decide +kernel
  obtain ⟨hpos, hruns, hexp, hletters⟩ := hall run hr
  rw [uppercase, toNat_ofNat_of_isValidChar hv]
  split
  · rename_i hl
    rw [hascii _ (List.mem_range.mpr hl) (CaseRun.apply_ne_of_isApart hletters hh)]
  · have hlookup : expansions.lookup (run.apply code) = none := by
      rw [List.lookup_eq_none_iff]
      intro e he
      have hne := CaseRun.apply_ne_of_isApart (List.all_eq_true.mp hexp e he) hh
      rw [bne_iff_ne]
      omega
    have hfind : caseRuns.find? (·.holds (run.apply code)) = none := by
      rw [List.find?_eq_none]
      intro other ho
      rw [CaseRun.holds_apply_of_avoids hpos (List.all_eq_true.mp hruns other ho) hh]
      exact Bool.false_ne_true
    rw [uppercaseCodes, hlookup, hfind]
    rfl

theorem exists_uppercaseCodes_eq_cons_fixed {code : Nat} (hl : 128 ≤ code) (hv : code.isValidChar) :
    ∃ first rest, uppercaseCodes code = first :: rest ∧
      uppercase (Char.ofNat first) = [Char.ofNat first] := by
  have hexp : ∀ e ∈ expansions,
      (e.2.head?.any fun first => uppercase (Char.ofNat first) == [Char.ofNat first]) = true := by
    decide +kernel
  obtain ⟨codes, he, hc⟩ | ⟨-, ⟨run, hr, hh, hc⟩ | hc⟩ := uppercaseCodes_cases code
  · have hhead := hexp (code, codes) he
    cases codes with
    | nil => cases hhead
    | cons first rest => exact ⟨first, rest, hc, beq_iff_eq.mp hhead⟩
  · have hvalid := (bounds_of_mem_uppercaseCodes hl hv (hc ▸ List.mem_singleton_self _)).2
    exact ⟨run.apply code, [], hc, uppercase_of_apply hr hh hvalid⟩
  · refine ⟨code, [], hc, ?_⟩
    rw [uppercase, toNat_ofNat_of_isValidChar hv, if_neg (Nat.not_lt.mpr hl), hc]
    rfl

theorem exists_uppercase_eq_cons_fixed (c : Char) :
    ∃ first rest, uppercase c = first :: rest ∧ uppercase first = [first] := by
  have hascii : ∀ n ∈ List.range 128,
      uppercase (Char.ofNat n).toUpper = [(Char.ofNat n).toUpper] := by decide +kernel
  rw [uppercase]
  by_cases hc : c.toNat < 128
  · have hu := hascii c.toNat (List.mem_range.mpr hc)
    rw [Char.ofNat_toNat] at hu
    rw [if_pos hc]
    exact ⟨c.toUpper, [], rfl, hu⟩
  · obtain ⟨first, rest, hcodes, hfirst⟩ :=
      exists_uppercaseCodes_eq_cons_fixed (Nat.le_of_not_lt hc) c.valid
    rw [if_neg hc, hcodes]
    exact ⟨Char.ofNat first, rest.map Char.ofNat, rfl, hfirst⟩

theorem capitalize_append {cs : List Char} (h : cs ≠ []) (ds : List Char) :
    capitalize (cs ++ ds) = capitalize cs ++ ds := by
  cases cs with
  | nil => exact absurd rfl h
  | cons c cs => rw [List.cons_append, capitalize, capitalize, List.append_assoc]

theorem capitalize_capitalize (cs : List Char) :
    capitalize (capitalize cs) = capitalize cs := by
  cases cs with
  | nil => rfl
  | cons c cs =>
    obtain ⟨first, rest, hu, hfirst⟩ := exists_uppercase_eq_cons_fixed c
    rw [capitalize, hu, List.cons_append, capitalize, hfirst, List.singleton_append]

end PointerHelpers.Text
