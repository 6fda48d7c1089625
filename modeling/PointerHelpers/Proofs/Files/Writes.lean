import PointerHelpers.Proofs.Files.FileSystem

namespace PointerHelpers.Files.FileSystem

variable {system : FileSystem} {location place : Location} {entry : Entry}

def putAll (system : FileSystem) (writes : List (Location × Entry)) : FileSystem :=
  writes.foldl (fun system write => system.put write.1 write.2) system

theorem putAll_cons (system : FileSystem) (write : Location × Entry)
    (writes : List (Location × Entry)) :
    system.putAll (write :: writes) = (system.put write.1 write.2).putAll writes := rfl

theorem putAll_append (system : FileSystem) (writes later : List (Location × Entry)) :
    system.putAll (writes ++ later) = (system.putAll writes).putAll later :=
  List.foldl_append

theorem replace_of_lookup_eq {entries : List (Location × Entry)}
    (h : entries.lookup location = some entry) : replace location entry entries = entries := by
  induction entries with
  | nil => cases h
  | cons first rest ih =>
    obtain ⟨known, old⟩ := first
    rw [lookup_cons_eq] at h
    rw [replace]
    by_cases hk : known = location
    · rw [if_pos hk.symm] at h
      rw [if_pos hk, Option.some.inj h]
    · rw [if_neg (Ne.symm hk)] at h
      rw [if_neg hk, ih h]

theorem put_of_get?_eq (h : system.get? location = some entry) :
    system.put location entry = system := by
  rw [put, replace_of_lookup_eq h]

/-- A location that is there keeps its position, so that another may be put before or after it. -/
theorem replace_comm {entries : List (Location × Entry)} (hne : place ≠ location)
    (h : entries.lookup location ≠ none) (new : Entry) :
    replace place new (replace location entry entries) =
      replace location entry (replace place new entries) := by
  induction entries with
  | nil => exact absurd rfl h
  | cons first rest ih =>
    obtain ⟨known, old⟩ := first
    rw [lookup_cons_eq] at h
    by_cases hk : known = location
    · rw [hk, replace, if_pos rfl, replace, if_neg hne.symm, replace, if_neg hne.symm, replace,
        if_pos rfl]
    · rw [if_neg (Ne.symm hk)] at h
      rw [replace, if_neg hk]
      by_cases hp : known = place
      · rw [replace, if_pos hp, replace, if_pos hp, replace, if_neg hk]
      · rw [replace, if_neg hp, replace, if_neg hp, replace, if_neg hk, ih h]

theorem put_comm (hne : place ≠ location) (h : system.get? location ≠ none) (new : Entry) :
    (system.put location entry).put place new = (system.put place new).put location entry := by
  rw [put, put, put, put, replace_comm hne h]

theorem get?_putAll_cases (writes : List (Location × Entry)) (place : Location) :
    (place ∈ writes.map Prod.fst ∧
      ∃ entry, ∀ system : FileSystem, (system.putAll writes).get? place = some entry) ∨
    (place ∉ writes.map Prod.fst ∧
      ∀ system : FileSystem, (system.putAll writes).get? place = system.get? place) := by
  induction writes with
  | nil => exact .inr ⟨by simp, fun _ => rfl⟩
  | cons write rest ih =>
    rw [List.map_cons]
    obtain ⟨hmem, entry, hlast⟩ | ⟨hmem, hkept⟩ := ih
    · exact .inl ⟨List.mem_cons_of_mem _ hmem, entry, fun _ => hlast _⟩
    · by_cases hp : place = write.1
      · refine .inl ⟨List.mem_cons.mpr (.inl hp), write.2, fun system => ?_⟩
        rw [putAll_cons, hkept, get?_put, if_pos hp]
      · refine .inr ⟨by simp [hp, hmem], fun system => ?_⟩
        rw [putAll_cons, hkept, get?_put, if_neg hp]

theorem current_putAll (system : FileSystem) (writes : List (Location × Entry)) :
    (system.putAll writes).current = system.current := by
  induction writes generalizing system with
  | nil => rfl
  | cons write rest ih => exact ih _

theorem putAll_put {writes : List (Location × Entry)} (hmem : location ∈ writes.map Prod.fst)
    (h : system.get? location ≠ none) (entry : Entry) :
    (system.put location entry).putAll writes = system.putAll writes := by
  induction writes generalizing system with
  | nil => cases hmem
  | cons write rest ih =>
    rw [putAll_cons, putAll_cons]
    by_cases hw : write.1 = location
    · rw [hw, put_put]
    · have hrest : location ∈ rest.map Prod.fst := by
        rw [List.map_cons, List.mem_cons] at hmem
        exact hmem.resolve_left (Ne.symm hw)
      rw [put_comm hw h]
      apply ih hrest
      rw [get?_put, if_neg (Ne.symm hw)]
      exact h

theorem putAll_putAll (system : FileSystem) (writes : List (Location × Entry)) :
    (system.putAll writes).putAll writes = system.putAll writes := by
  induction writes generalizing system with
  | nil => rfl
  | cons write rest ih =>
    obtain ⟨location, entry⟩ := write
    rw [putAll_cons, putAll_cons]
    obtain ⟨hmem, last, hlast⟩ | ⟨-, hkept⟩ := get?_putAll_cases rest location
    · rw [putAll_put hmem (by rw [hlast]; exact Option.some_ne_none last), ih]
    · have hsettled : ((system.put location entry).putAll rest).get? location = some entry := by
        rw [hkept, get?_put_self]
      rw [put_of_get?_eq hsettled, ih]

end PointerHelpers.Files.FileSystem
