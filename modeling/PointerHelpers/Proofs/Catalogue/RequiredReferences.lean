import Mathlib.Data.List.Nodup
import PointerHelpers.Proofs.Catalogue.Acceptance

namespace PointerHelpers.Catalogue

theorem contains_insert (seen : Std.TreeSet (String × String) lexOrd.compare)
    (key other : String × String) :
    (seen.insert key).contains other = (key == other || seen.contains other) := by
  have hk : (lexOrd.compare key other == .eq) = (key == other) := by
    rw [Bool.eq_iff_iff, beq_iff_eq, beq_iff_eq]
    exact Std.LawfulEqCmp.compare_eq_iff_eq
  rw [Std.TreeSet.contains_insert, hk]

def firstUses (references : List Reference) : List Reference :=
  (references.zipIdx.filter fun use => !(references.take use.2).any (·.key == use.1.key)).map (·.1)

/-- Run: the keys that are seen are those of the references that were passed, whether these were
taken or not. -/
theorem distinctImports_eq {seen : Std.TreeSet (String × String) lexOrd.compare}
    {earlier : List Reference} (h : ∀ key, seen.contains key = earlier.any (·.key == key))
    (rest : List Reference) :
    distinctImports seen rest = ((rest.zipIdx earlier.length).filter fun use =>
      !((earlier ++ rest).take use.2).any (·.key == use.1.key)).map (·.1) := by
  induction rest generalizing seen earlier with
  | nil => rfl
  | cons reference rest ih =>
    have hl : (earlier ++ [reference]).length = earlier.length + 1 := by simp
    have ha : earlier ++ [reference] ++ rest = earlier ++ reference :: rest := by simp
    rw [distinctImports, List.zipIdx_cons, List.filter_cons, List.take_left, ← h reference.key]
    by_cases hs : seen.contains reference.key = true
    · have hi : ∀ key, seen.contains key = (earlier ++ [reference]).any (·.key == key) := by
        intro key
        rw [List.any_append, ← h key]
        by_cases hk : reference.key = key
        · simp [← hk, hs]
        · simp [hk]
      rw [if_pos hs, ih hi, hl, ha, hs]
      rfl
    · have hi : ∀ key, (seen.insert reference.key).contains key =
          (earlier ++ [reference]).any (·.key == key) := by
        intro key
        rw [contains_insert, List.any_append, ← h key, Bool.or_comm]
        simp
      rw [if_neg hs, ih hi, hl, ha, Bool.eq_false_iff.mpr hs]
      rfl

theorem requiredReferences_eq_firstUses (catalogue : Catalogue) :
    catalogue.requiredReferences = firstUses (references catalogue.types) := by
  have hs : ∀ key, (∅ : Std.TreeSet (String × String) lexOrd.compare).contains key =
      ([] : List Reference).any (·.key == key) := by simp
  exact distinctImports_eq hs _

theorem mem_of_mem_firstUses {references : List Reference} {reference : Reference}
    (h : reference ∈ firstUses references) : reference ∈ references := by
  obtain ⟨use, hm, rfl⟩ := List.mem_map.mp h
  exact List.fst_mem_of_mem_zipIdx (List.mem_of_mem_filter hm)

theorem mem_keys_distinctImports (seen : Std.TreeSet (String × String) lexOrd.compare)
    (references : List Reference) (key : String × String) :
    key ∈ (distinctImports seen references).map (·.key) ↔
      key ∈ references.map (·.key) ∧ seen.contains key = false := by
  induction references generalizing seen with
  | nil => simp [distinctImports]
  | cons reference rest ih =>
    rw [distinctImports]
    by_cases hs : seen.contains reference.key = true
    · rw [if_pos hs, ih, List.map_cons, List.mem_cons]
      constructor
      · exact fun h => ⟨.inr h.1, h.2⟩
      · rintro ⟨rfl | h, hn⟩
        · rw [hs] at hn
          cases hn
        · exact ⟨h, hn⟩
    · rw [if_neg hs, List.map_cons, List.map_cons, List.mem_cons, List.mem_cons, ih,
        contains_insert]
      by_cases hk : key = reference.key
      · simp [hk, hs]
      · simp [hk, Ne.symm hk]

theorem keys_distinctImports_nodup (seen : Std.TreeSet (String × String) lexOrd.compare)
    (references : List Reference) :
    ((distinctImports seen references).map (·.key)).Nodup := by
  induction references generalizing seen with
  | nil => exact List.nodup_nil
  | cons reference rest ih =>
    rw [distinctImports]
    split
    · exact ih seen
    · rw [List.map_cons, List.nodup_cons, mem_keys_distinctImports, contains_insert]
      exact ⟨by simp, ih _⟩

theorem mem_references_of_mem_requiredReferences {catalogue : Catalogue} {reference : Reference}
    (h : reference ∈ catalogue.requiredReferences) : reference ∈ references catalogue.types := by
  rw [requiredReferences_eq_firstUses] at h
  exact mem_of_mem_firstUses h

theorem usable_of_mem_requiredReferences {catalogue : Catalogue} {reference : Reference}
    (h : reference ∈ catalogue.requiredReferences) : reference.Usable :=
  catalogue.compatible.usable reference (mem_references_of_mem_requiredReferences h)

theorem exists_requiredReference {catalogue : Catalogue} {reference : Reference}
    (h : reference ∈ references catalogue.types) :
    ∃ required ∈ catalogue.requiredReferences, required.key = reference.key := by
  apply List.mem_map.mp
  rw [requiredReferences, mem_keys_distinctImports]
  exact ⟨List.mem_map_of_mem h, Std.TreeSet.contains_emptyc⟩

theorem names_requiredReferences_nodup (catalogue : Catalogue) :
    (catalogue.requiredReferences.map (·.name)).Nodup := by
  have hk := keys_distinctImports_nodup ∅ (references catalogue.types)
  apply List.Nodup.map_on _ hk.of_map
  intro reference hm other ho hn
  have hl : reference.locator = other.locator := catalogue.compatible.packages
    reference (mem_references_of_mem_requiredReferences hm)
    other (mem_references_of_mem_requiredReferences ho) hn
  exact List.inj_on_of_nodup_map hk hm ho (Prod.ext hl hn)

end PointerHelpers.Catalogue
