import PointerHelpers.Proofs.Text.Identifier

namespace PointerHelpers.Text

/-- The letters whose upper case goes on with a combining mark. -/
def markedCapitals : List Nat :=
  [0x1F0, 0x390, 0x3B0, 0x1E96, 0x1E97, 0x1E98, 0x1E99, 0x1F50, 0x1F52, 0x1F54, 0x1F56, 0x1FB6,
   0x1FB7, 0x1FC6, 0x1FC7, 0x1FD2, 0x1FD3, 0x1FD6, 0x1FD7, 0x1FE2, 0x1FE3, 0x1FE4, 0x1FE6, 0x1FE7,
   0x1FF6, 0x1FF7]

def Ranges.spans (ranges : Ranges) (first last : Nat) : Bool :=
  ranges.any fun r => Nat.ble r.1 first && Nat.ble last r.2

theorem Ranges.holds_of_spans {ranges : Ranges} {first last : Nat}
    (h : ranges.spans first last = true) {c : Char} (hf : first ≤ c.toNat) (hl : c.toNat ≤ last) :
    ranges.holds c = true := by
  obtain ⟨r, hr, hs⟩ := List.any_eq_true.mp h
  rw [Bool.and_eq_true, Nat.ble_eq, Nat.ble_eq] at hs
  exact (ranges.holds_iff c).mpr ⟨r, hr, hs.1.trans hf, hl.trans hs.2⟩

theorem isNameStart_of_holds {c : Char} (hc : 128 ≤ c.toNat)
    (h : alphabeticRanges.holds c = true) : isNameStart c = true := by
  rw [isNameStart, isAlphabetic, if_neg (Nat.not_lt.mpr hc), h, Bool.true_or]

theorem isNameStart_apply {run : CaseRun} (hr : run ∈ caseRuns) {code : Nat}
    (hh : run.holds code = true) (hv : (run.apply code).isValidChar) :
    isNameStart (Char.ofNat (run.apply code)) = true := by
  -- The upper case of a run is within one range of letters, but for a few runs across several.
  have hall : ∀ run ∈ caseRuns,
      (128 ≤ run.apply run.first ∧
        alphabeticRanges.spans (run.apply run.first) (run.apply run.last) = true) ∨
      ∀ code ∈ List.range' run.first (run.last + 1 - run.first), run.holds code = true →
        isNameStart (Char.ofNat (run.apply code)) = true := by
    decide +kernel
  have hb := hh
  simp only [CaseRun.holds, Bool.and_eq_true, Nat.ble_eq] at hb
  obtain ⟨hl, hs⟩ | hcodes := hall run hr
  · have hfirst : run.apply run.first ≤ run.apply code := by
      simp only [CaseRun.apply]
      omega
    have hlast : run.apply code ≤ run.apply run.last := by
      simp only [CaseRun.apply]
      omega
    rw [← toNat_ofNat_of_isValidChar hv] at hfirst hlast
    exact isNameStart_of_holds (hl.trans hfirst) (Ranges.holds_of_spans hs hfirst hlast)
  · exact hcodes code (List.mem_range'_1.mpr ⟨hb.1.1, by omega⟩) hh

theorem exists_uppercaseCodes_eq_cons {code : Nat} (hl : 128 ≤ code) (hv : code.isValidChar)
    (hs : isNameStart (Char.ofNat code) = true) :
    ∃ first rest, uppercaseCodes code = first :: rest ∧
      isNameStart (Char.ofNat first) = true ∧
      ((rest.all fun n => isNamePart (Char.ofNat n)) = true ↔ code ∉ markedCapitals) := by
  have hexp : ∀ e ∈ expansions,
      (e.2.head?.any fun first => isNameStart (Char.ofNat first)) = true ∧
      ((e.2.tail.all fun n => isNamePart (Char.ofNat n)) = true ↔ e.1 ∉ markedCapitals) := by
    decide +kernel
  have hmarked : ∀ code ∈ markedCapitals, expansions.lookup code ≠ none := by decide +kernel
  obtain ⟨codes, he, hc⟩ | ⟨hn, hcodes⟩ := uppercaseCodes_cases code
  · obtain ⟨hstart, hrest⟩ := hexp (code, codes) he
    cases codes with
    | nil => cases hstart
    | cons first rest => exact ⟨first, rest, hc, hstart, hrest⟩
  · have hm : code ∉ markedCapitals := fun hm => hmarked code hm hn
    obtain ⟨run, hr, hh, hc⟩ | hc := hcodes
    · have hvalid := (bounds_of_mem_uppercaseCodes hl hv (hc ▸ List.mem_singleton_self _)).2
      exact ⟨run.apply code, [], hc, isNameStart_apply hr hh hvalid, by simpa using hm⟩
    · exact ⟨code, [], hc, hs, by simpa using hm⟩

/-- The upper case of a letter or an underscore begins with one, and the rest of it belongs to an
identifier except for some letters. -/
theorem exists_uppercase_eq_cons {c : Char} (hs : isNameStart c = true) :
    ∃ first rest, uppercase c = first :: rest ∧ isNameStart first = true ∧
      (rest.all isNamePart = true ↔ c.toNat ∉ markedCapitals) := by
  have hascii : ∀ n ∈ List.range 128, n ∉ markedCapitals ∧
      (isNameStart (Char.ofNat n) = true → isNameStart (Char.ofNat n).toUpper = true) := by
    decide +kernel
  rw [uppercase]
  by_cases hc : c.toNat < 128
  · obtain ⟨hn, hu⟩ := hascii c.toNat (List.mem_range.mpr hc)
    rw [Char.ofNat_toNat] at hu
    rw [if_pos hc]
    exact ⟨c.toUpper, [], rfl, hu hs, by simpa using hn⟩
  · obtain ⟨first, rest, hcodes, hfirst, hrest⟩ :=
      exists_uppercaseCodes_eq_cons (Nat.le_of_not_lt hc) c.valid (by rwa [Char.ofNat_toNat])
    rw [if_neg hc, hcodes]
    exact ⟨Char.ofNat first, rest.map Char.ofNat, rfl, hfirst, by rwa [List.all_map]⟩

theorem isIdentifier_append {cs : List Char} (h : cs ≠ []) (ds : List Char) :
    isIdentifier (cs ++ ds) = (isIdentifier cs && ds.all isNamePart) := by
  cases cs with
  | nil => exact absurd rfl h
  | cons c cs =>
    rw [List.cons_append, isIdentifier, isIdentifier, List.all_append, Bool.and_assoc]

theorem isIdentifier_capitalize {cs : List Char} (h : isIdentifier cs = true) :
    isIdentifier (capitalize cs) = (capitalize cs).all isNamePart := by
  cases cs with
  | nil => cases h
  | cons c cs =>
    rw [isIdentifier, Bool.and_eq_true] at h
    obtain ⟨first, rest, hu, hs, -⟩ := exists_uppercase_eq_cons h.1
    rw [capitalize, hu, List.cons_append, isIdentifier, List.all_cons, hs,
      isNamePart_of_isNameStart hs]

theorem capitalize_ne_nil {cs : List Char} (h : isIdentifier cs = true) : capitalize cs ≠ [] := by
  intro hn
  have hi := isIdentifier_capitalize h
  rw [hn] at hi
  cases hi

theorem all_isNamePart_capitalize_iff {cs : List Char} (h : isIdentifier cs = true) :
    (capitalize cs).all isNamePart = true ↔ ∀ first ∈ cs.head?, first.toNat ∉ markedCapitals := by
  cases cs with
  | nil => cases h
  | cons c cs =>
    rw [isIdentifier, Bool.and_eq_true] at h
    obtain ⟨first, rest, hu, hs, hrest⟩ := exists_uppercase_eq_cons h.1
    rw [capitalize, hu, List.cons_append, List.all_cons, List.all_append, h.2, Bool.and_true,
      isNamePart_of_isNameStart hs, Bool.true_and, hrest]
    simp

end PointerHelpers.Text
