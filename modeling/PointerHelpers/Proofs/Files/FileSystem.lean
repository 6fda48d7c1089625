import Mathlib.Order.Basic
import PointerHelpers.Files.FileSystem

namespace PointerHelpers.Files

namespace FileSystem

variable {system other : FileSystem}

theorem lookup_cons_eq (known place : Location) (entry : Entry)
    (rest : List (Location × Entry)) :
    ((known, entry) :: rest).lookup place =
      if place = known then some entry else rest.lookup place := by
  rw [List.lookup_cons]
  by_cases h : place = known
  · rw [beq_iff_eq.mpr h, if_pos h]
  · rw [beq_eq_false_iff_ne.mpr h, if_neg h]

theorem lookup_replace (location place : Location) (entry : Entry)
    (entries : List (Location × Entry)) :
    (replace location entry entries).lookup place =
      if place = location then some entry else entries.lookup place := by
  induction entries with
  | nil => rw [replace, lookup_cons_eq]
  | cons first rest ih =>
    obtain ⟨known, old⟩ := first
    rw [replace]
    by_cases hk : known = location
    · rw [if_pos hk, hk, lookup_cons_eq, lookup_cons_eq]
      by_cases h : place = location
      · rw [if_pos h, if_pos h]
      · rw [if_neg h, if_neg h, if_neg h]
    · rw [if_neg hk, lookup_cons_eq, lookup_cons_eq, ih]
      by_cases h : place = location
      · rw [if_neg (h ▸ Ne.symm hk), if_pos h, if_pos h]
      · rw [if_neg h, if_neg h]

theorem get?_put (system : FileSystem) (location place : Location) (entry : Entry) :
    (system.put location entry).get? place =
      if place = location then some entry else system.get? place :=
  lookup_replace location place entry system.entries

theorem get?_put_self (system : FileSystem) (location : Location) (entry : Entry) :
    (system.put location entry).get? location = some entry := by
  rw [get?_put, if_pos rfl]

theorem replace_replace (location : Location) (old new : Entry)
    (entries : List (Location × Entry)) :
    replace location new (replace location old entries) = replace location new entries := by
  induction entries with
  | nil => simp [replace]
  | cons first rest ih =>
    by_cases hk : first.1 = location
    · simp [replace, hk]
    · simp [replace, hk, ih]

theorem put_put (system : FileSystem) (location : Location) (old new : Entry) :
    (system.put location old).put location new = system.put location new := by
  rw [put, put, put, replace_replace]

def IsRegular (system : FileSystem) : Prop :=
  ∀ location device, system.get? location ≠ some (.device device)

theorem isRegular_of_entries
    (h : ∀ entry ∈ system.entries, ∀ device, entry.2 ≠ .device device) : system.IsRegular := by
  intro location device hg
  obtain ⟨_, _, hs, -⟩ := List.lookup_eq_some_iff.mp hg
  exact h (location, .device device) (by simp [hs]) device rfl

theorem append_of_file {location : Location} {content : Content}
    (h : system.get? location = some (.file content)) (text : String) :
    system.append location text = .ok (system.put location (.file (content.append text))) := by
  rw [append, h]

def AvoidsDevices (system : FileSystem) (path : Path) : Prop :=
  ∀ location, system.locate path = .ok location →
    ∀ device, system.get? location ≠ some (.device device)

theorem IsRegular.avoidsDevices (hs : system.IsRegular) (path : Path) :
    system.AvoidsDevices path := fun location _ => hs location

theorem bind_eq_ok_iff {first second : Except SystemError Location}
    {next after : Location → Except SystemError Location} {target : Location}
    (h : ∀ location, first = .ok location ↔ second = .ok location)
    (hn : ∀ location, next location = .ok target ↔ after location = .ok target) :
    first.bind next = .ok target ↔ second.bind after = .ok target := by
  cases first with
  | ok location =>
    rw [(h location).mp rfl]
    exact hn location
  | error error =>
    cases second with
    | ok location => cases (h location).mpr rfl
    | error other => simp [Except.bind]

theorem walk_cons (system : FileSystem) (location : Location) (segment : String)
    (rest : List String) :
    system.walk location (segment :: rest) =
      (system.step location segment).bind fun next => system.walk next rest := by
  rw [walk]
  cases system.step location segment <;> rfl

structure SameDirectories (system other : FileSystem) : Prop where
  current : other.current = system.current
  directory : ∀ location,
    other.get? location = some .directory ↔ system.get? location = some .directory

namespace SameDirectories

theorem refl (system : FileSystem) : SameDirectories system system := ⟨rfl, fun _ => Iff.rfl⟩

theorem trans {last : FileSystem} (h : SameDirectories system other)
    (hl : SameDirectories other last) : SameDirectories system last :=
  ⟨hl.current.trans h.current, fun place => (hl.directory place).trans (h.directory place)⟩

theorem step_eq_ok_iff (h : SameDirectories system other) (location : Location) (segment : String)
    (target : Location) :
    other.step location segment = .ok target ↔ system.step location segment = .ok target := by
  have hd := h.directory (location ++ [segment])
  rw [step, step]
  split
  · rfl
  split
  · rfl
  split
  · rfl
  by_cases hs : system.get? (location ++ [segment]) = some .directory
  · rw [hs, hd.mpr hs]
  · have ho := mt hd.mp hs
    refine iff_of_false ?_ ?_
    · split <;> simp_all
    · split <;> simp_all

theorem walk_eq_ok_iff (h : SameDirectories system other) (segments : List String)
    (location target : Location) :
    other.walk location segments = .ok target ↔ system.walk location segments = .ok target := by
  induction segments generalizing location with
  | nil => rfl
  | cons segment rest ih =>
    rw [walk_cons, walk_cons]
    exact bind_eq_ok_iff (h.step_eq_ok_iff location segment) fun next => ih next

theorem locate_eq_ok_iff (h : SameDirectories system other) (path : Path) (location : Location) :
    other.locate path = .ok location ↔ system.locate path = .ok location := by
  have hs : other.startOf path = system.startOf path := by
    rw [startOf, startOf, h.current]
  rw [locate, locate, hs]
  split
  · rfl
  split
  · rfl
  split
  · rfl
  cases path.segments.getLast? with
  | none => rfl
  | some name =>
    have hw := h.walk_eq_ok_iff path.segments.dropLast (system.startOf path)
    cases hn : system.walk (system.startOf path) path.segments.dropLast with
    | ok directory => rw [(hw directory).mpr hn]
    | error error =>
      cases ho : other.walk (system.startOf path) path.segments.dropLast with
      | ok directory => cases hn.symm.trans ((hw directory).mp ho)
      | error error => simp

end SameDirectories

end FileSystem

end PointerHelpers.Files
