import PointerHelpers.Proofs.Files.FileSystem

namespace PointerHelpers.Files

namespace Entry

def hollow : Entry → Entry
  | .file _ => .file .empty
  | entry => entry

def target : Option Entry → Except SystemError (Option Device)
  | some .directory => .error .isDirectory
  | some (.device kind) => .ok (some kind)
  | some (.file _) | none => .ok none

theorem target_eq_device_iff (entry : Option Entry) (kind : Device) :
    target entry = .ok (some kind) ↔ entry = some (.device kind) := by
  rcases entry with _ | _ | _ | _ <;> simp [target]

theorem eq_of_hollow_eq {entry other : Option Entry} (h : other.map hollow = entry.map hollow)
    (ht : target entry ≠ .ok none) : other = entry := by
  rcases entry with _ | _ | _ | _
  · exact absurd rfl ht
  · rcases other with _ | _ | _ | _ <;> simp_all [hollow]
  · exact absurd rfl ht
  · rcases other with _ | _ | _ | _ <;> simp_all [hollow]

end Entry

namespace FileSystem

variable {system other before after : FileSystem} {path : Path} {location : Location}

def outline (system : FileSystem) (location : Location) : Option Entry :=
  (system.get? location).map Entry.hollow

theorem outline_eq_directory_iff (system : FileSystem) (location : Location) :
    system.outline location = some .directory ↔ system.get? location = some .directory := by
  rw [outline]
  rcases system.get? location with _ | _ | _ | _ <;> simp [Entry.hollow]

theorem target_outline (system : FileSystem) (location : Location) :
    Entry.target (system.outline location) = Entry.target (system.get? location) := by
  rw [outline]
  rcases system.get? location with _ | _ | _ | _ <;> rfl

theorem outline_put (system : FileSystem) (location place : Location) (entry : Entry) :
    (system.put location entry).outline place =
      if place = location then some entry.hollow else system.outline place := by
  rw [outline, get?_put, outline, apply_ite (Option.map Entry.hollow), Option.map_some]

theorem step_eq_outline (system : FileSystem) (location : Location) (segment : String) :
    system.step location segment =
      if segment = "." then .ok location
      else if segment = ".." then .ok location.dropLast
      else if maxNameBytes < segment.utf8ByteSize then .error .nameTooLong
      else
        match system.outline (location ++ [segment]) with
        | none => .error .noEntry
        | some .directory => .ok (location ++ [segment])
        | some _ => .error .notDirectory := by
  rw [step, outline]
  rcases system.get? (location ++ [segment]) with _ | _ | _ | _ <;> rfl

def opening (system : FileSystem) (path : Path) : Except SystemError (Location × Option Device) :=
  match system.locate path with
  | .error error => .error error
  | .ok location => (Entry.target (system.get? location)).map (location, ·)

theorem opening_eq_ok_iff (system : FileSystem) (path : Path) (location : Location)
    (device : Option Device) :
    system.opening path = .ok (location, device) ↔
      system.locate path = .ok location ∧ Entry.target (system.get? location) = .ok device := by
  rw [opening]
  cases system.locate path with
  | error error => simp
  | ok place =>
    simp only
    cases ht : Entry.target (system.get? place) with
    | error error =>
      refine iff_of_false (by simp [Except.map]) ?_
      rintro ⟨hp, hd⟩
      cases hp
      cases ht.symm.trans hd
    | ok known =>
      simp only [Except.map, Except.ok.injEq, Prod.mk.injEq]
      refine and_congr_right fun hp => ?_
      rw [← hp, ht, Except.ok.injEq]

theorem create_eq (system : FileSystem) (path : Path) :
    system.create path =
      match system.opening path with
      | .error error => .error error
      | .ok (location, some _) => .ok (location, system)
      | .ok (location, none) => .ok (location, system.put location (.file .empty)) := by
  rw [create, opening]
  cases system.locate path with
  | error error => rfl
  | ok location =>
    simp only
    rcases system.get? location with _ | _ | _ | _ <;> rfl

/-- Two file systems in which the same directories, files and devices are. What their files hold may
differ. -/
structure SameOutline (system other : FileSystem) : Prop where
  current : other.current = system.current
  outline : ∀ location, other.outline location = system.outline location

namespace SameOutline

theorem step_eq (h : system.SameOutline other) (location : Location) (segment : String) :
    other.step location segment = system.step location segment := by
  rw [step_eq_outline, step_eq_outline, h.outline]

theorem walk_eq (h : system.SameOutline other) (location : Location) (segments : List String) :
    other.walk location segments = system.walk location segments := by
  induction segments generalizing location with
  | nil => rfl
  | cons segment rest ih =>
    rw [walk_cons, walk_cons, h.step_eq]
    congr
    funext next
    exact ih next

theorem locate_eq (h : system.SameOutline other) (path : Path) :
    other.locate path = system.locate path := by
  have hs : other.startOf path = system.startOf path := by
    rw [startOf, startOf, h.current]
  rw [locate, locate, hs]
  simp only [h.walk_eq]

theorem opening_eq (h : system.SameOutline other) (path : Path) :
    other.opening path = system.opening path := by
  rw [opening, opening, h.locate_eq]
  simp only [← target_outline, h.outline]

theorem get?_eq (h : system.SameOutline other)
    (ht : Entry.target (system.get? location) ≠ .ok none) :
    other.get? location = system.get? location :=
  Entry.eq_of_hollow_eq (h.outline location) ht

end SameOutline

/-- The second file system is the first with other contents in its files, and maybe with more
files. -/
structure MoreFiles (before after : FileSystem) : Prop where
  current : after.current = before.current
  outline : ∀ location, after.outline location = before.outline location ∨
    before.outline location = none ∧ after.outline location = some (.file .empty)

namespace MoreFiles

theorem refl (system : FileSystem) : MoreFiles system system := ⟨rfl, fun _ => .inl rfl⟩

theorem trans {last : FileSystem} (h : MoreFiles before after) (hl : MoreFiles after last) :
    MoreFiles before last := by
  refine ⟨hl.current.trans h.current, fun location => ?_⟩
  obtain ho | ⟨hn, hf⟩ := hl.outline location
  · rw [ho]
    exact h.outline location
  · obtain ho | ⟨-, hfile⟩ := h.outline location
    · exact .inr ⟨ho.symm.trans hn, hf⟩
    · cases hfile.symm.trans hn

theorem sameDirectories (h : MoreFiles before after) : SameDirectories before after := by
  refine ⟨h.current, fun location => ?_⟩
  rw [← outline_eq_directory_iff, ← outline_eq_directory_iff]
  obtain ho | ⟨hb, ha⟩ := h.outline location
  · rw [ho]
  · simp [hb, ha]

theorem target_eq (h : MoreFiles before after) (location : Location) :
    Entry.target (after.get? location) = Entry.target (before.get? location) := by
  rw [← target_outline, ← target_outline]
  obtain ho | ⟨hb, ha⟩ := h.outline location
  · rw [ho]
  · rw [hb, ha, Entry.target, Entry.target]

theorem opening_eq_ok_iff (h : MoreFiles before after) (path : Path)
    (opened : Location × Option Device) :
    after.opening path = .ok opened ↔ before.opening path = .ok opened := by
  rw [FileSystem.opening_eq_ok_iff, FileSystem.opening_eq_ok_iff, h.target_eq,
    h.sameDirectories.locate_eq_ok_iff]

theorem put (ho : before.opening path = .ok (location, none)) (content : Content) :
    MoreFiles before (before.put location (.file content)) := by
  obtain ⟨-, ht⟩ := (FileSystem.opening_eq_ok_iff _ _ _ _).mp ho
  refine ⟨rfl, fun place => ?_⟩
  rw [outline_put]
  by_cases hp : place = location
  · rw [if_pos hp, hp, FileSystem.outline]
    rcases hb : before.get? location with _ | _ | _ | _
    · exact .inr ⟨rfl, rfl⟩
    · cases hb ▸ ht
    · exact .inl rfl
    · cases hb ▸ ht
  · rw [if_neg hp]
    exact .inl rfl

end MoreFiles

end FileSystem

end PointerHelpers.Files
