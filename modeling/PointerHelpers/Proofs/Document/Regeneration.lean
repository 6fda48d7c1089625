import PointerHelpers.Proofs.Document.Generation

namespace PointerHelpers.Files.FileSystem

/-- At each location is what is there in one of two file systems, whatever it holds. -/
structure Between (before after system : FileSystem) : Prop where
  current : system.current = before.current
  outline : ∀ location, system.outline location = before.outline location ∨
    system.outline location = after.outline location

namespace Between

variable {before after system : FileSystem}

theorem moreFiles (h : Between before after system) (hm : MoreFiles before after) :
    MoreFiles before system := by
  refine ⟨h.current, fun location => ?_⟩
  obtain ho | ho := h.outline location
  · exact .inl ho
  · rw [ho]
    exact hm.outline location

theorem sameOutline (h : Between before before system) : SameOutline before system :=
  ⟨h.current, fun location => (h.outline location).elim id id⟩

theorem putAll (h : Between before after system) (writes : List (Location × Entry)) :
    Between (before.putAll writes) after (system.putAll writes) := by
  refine ⟨by rw [current_putAll, current_putAll, h.current], fun location => ?_⟩
  obtain ⟨-, entry, hlast⟩ | ⟨-, hkept⟩ := get?_putAll_cases writes location
  · rw [FileSystem.outline, FileSystem.outline, hlast, hlast]
    exact .inl rfl
  · rw [FileSystem.outline, FileSystem.outline, FileSystem.outline, hkept, hkept]
    exact h.outline location

end Between

end PointerHelpers.Files.FileSystem

namespace PointerHelpers.Document

open Files Output Template

variable {templates : TemplateSet} {catalogue : Catalogue} {config : Config} {kind : Kind}
  {kinds : List Kind} {before system : FileSystem}
  {opened : Except SystemError (Location × Option Device)}

theorem moreFiles_emittedFile (ho : system.opening (config.pathFor kind) = opened) :
    system.MoreFiles (system.putAll (emittedFile templates catalogue config kind opened)) := by
  rcases opened with error | ⟨location, _ | device⟩
  · exact .refl system
  · exact .put ho _
  · exact .refl system

theorem mem_emittedFile_iff (location : Location) :
    location ∈ (emittedFile templates catalogue config kind opened).map Prod.fst ↔
      opened = .ok (location, none) := by
  rcases opened with error | ⟨place, _ | device⟩ <;> simp [emittedFile, eq_comm]

inductive Reached (templates : TemplateSet) (catalogue : Catalogue) (config : Config) :
    List Kind → FileSystem → Kind → Prop where
  | first {kind : Kind} {rest : List Kind} {system : FileSystem} :
    Reached templates catalogue config (kind :: rest) system kind
  | later {kind other : Kind} {rest : List Kind} {system between : FileSystem} {path : Path}
    (emitted : emit templates catalogue config kind system = (between, .ok path))
    (reached : Reached templates catalogue config rest between other) :
    Reached templates catalogue config (kind :: rest) system other

theorem reached_iff_of_error {rest : List Kind} {between : FileSystem} {error : GenerationError}
    (he : emit templates catalogue config kind before = (between, .error error)) (other : Kind) :
    Reached templates catalogue config (kind :: rest) before other ↔ other = kind := by
  constructor
  · intro hr
    cases hr with
    | first => rfl
    | later emitted _ =>
      cases he.symm.trans emitted
  · rintro rfl
    exact .first

theorem reached_iff_of_ok {rest : List Kind} {between : FileSystem} {path : Path}
    (he : emit templates catalogue config kind before = (between, .ok path)) (other : Kind) :
    Reached templates catalogue config (kind :: rest) before other ↔
      other = kind ∨ Reached templates catalogue config rest between other := by
  constructor
  · intro hr
    cases hr with
    | first => exact .inl rfl
    | later emitted reached =>
      cases he.symm.trans emitted
      exact .inr reached
  · rintro (rfl | reached)
    · exact .first
    · exact .later he reached

/-- These are the entries that a generation puts into a file system. It puts them again into one
that it has left, or that holds other contents. -/
structure Puts (templates : TemplateSet) (catalogue : Catalogue) (config : Config)
    (kinds : List Kind) (before : FileSystem) (writes : List (Location × Entry)) : Prop where
  moreFiles : before.MoreFiles (before.putAll writes)
  emitAll_eq : ∀ system, before.Between (before.putAll writes) system →
    emitAll templates catalogue config system kinds =
      (system.putAll writes, (emitAll templates catalogue config before kinds).2)
  mem_iff : ∀ location, location ∈ writes.map Prod.fst ↔
    ∃ kind, Reached templates catalogue config kinds before kind ∧
      before.opening (config.pathFor kind) = .ok (location, none)

/-- A document that cannot be written is the last. A path that was refused is refused for the same
reason again, as the file system is as it was. -/
theorem puts_of_error {rest : List Kind} {error : GenerationError}
    (ho : before.opening (config.pathFor kind) = opened)
    (he : emissionResult templates catalogue config kind opened = .error error) :
    Puts templates catalogue config (kind :: rest) before
      (emittedFile templates catalogue config kind opened) := by
  have hm : before.MoreFiles (before.putAll (emittedFile templates catalogue config kind opened)) :=
    moreFiles_emittedFile ho
  have hemit : emit templates catalogue config kind before = _ := emit_of_opening_eq ho
  rw [he] at hemit
  refine ⟨hm, fun system h => ?_, fun location => ?_⟩
  · have hopening : system.opening (config.pathFor kind) = opened := by
      cases opened with
      | error refusal => exact (h.sameOutline.opening_eq _).trans ho
      | ok _ => exact ((h.moreFiles hm).opening_eq_ok_iff _ _).mpr ho
    rw [emitAll_cons, emitAll_cons, emit_of_opening_eq hopening, hemit, he]
  · have hreached (other : Kind) :
        Reached templates catalogue config (kind :: rest) before other ↔ other = kind :=
      reached_iff_of_error hemit other
    simp only [hreached, exists_eq_left, ho, mem_emittedFile_iff]

theorem puts_of_ok {rest : List Kind} {path : Path} {writes : List (Location × Entry)}
    (ho : before.opening (config.pathFor kind) = opened)
    (he : emissionResult templates catalogue config kind opened = .ok path)
    (hrest : Puts templates catalogue config rest
      (before.putAll (emittedFile templates catalogue config kind opened)) writes) :
    Puts templates catalogue config (kind :: rest) before
      (emittedFile templates catalogue config kind opened ++ writes) := by
  have hfirst : before.MoreFiles
      (before.putAll (emittedFile templates catalogue config kind opened)) :=
    moreFiles_emittedFile ho
  have hm := hfirst.trans hrest.moreFiles
  rw [← FileSystem.putAll_append] at hm
  have hemit : emit templates catalogue config kind before = _ := emit_of_opening_eq ho
  rw [he] at hemit
  refine ⟨hm, fun system h => ?_, fun location => ?_⟩
  · have hopening : system.opening (config.pathFor kind) = opened := by
      cases opened with
      | error _ => cases he
      | ok _ => exact ((h.moreFiles hm).opening_eq_ok_iff _ _).mpr ho
    have hlater := h.putAll (emittedFile templates catalogue config kind opened)
    rw [FileSystem.putAll_append] at hlater
    rw [emitAll_cons, emitAll_cons, emit_of_opening_eq hopening, hemit, he,
      FileSystem.putAll_append]
    simp only [hrest.emitAll_eq _ hlater]
  · simp only [List.map_append, List.mem_append, mem_emittedFile_iff, hrest.mem_iff,
      hfirst.opening_eq_ok_iff, reached_iff_of_ok hemit, or_and_right, exists_or, exists_eq_left,
      ho]

theorem exists_puts (templates : TemplateSet) (catalogue : Catalogue) (config : Config)
    (kinds : List Kind) (before : FileSystem) :
    ∃ writes, Puts templates catalogue config kinds before writes := by
  induction kinds generalizing before with
  | nil =>
    refine ⟨[], .refl before, fun _ _ => rfl, fun location => iff_of_false (by simp) ?_⟩
    rintro ⟨kind, hr, -⟩
    cases hr
  | cons kind rest ih =>
    let opened := before.opening (config.pathFor kind)
    cases he : emissionResult templates catalogue config kind opened with
    | error error => exact ⟨_, puts_of_error rfl he⟩
    | ok path =>
      let file := emittedFile templates catalogue config kind opened
      obtain ⟨writes, hw⟩ := ih (before.putAll file)
      exact ⟨file ++ writes, puts_of_ok rfl he hw⟩

/-- Generating again gives the same answer and leaves the file system as it is, whether or not the
first run came to its end. What the files held before makes no difference: for other contents the
answer is the same, and so is what is left of each document that the run gets to. Everything else is
left alone. -/
theorem generateWith_again (templates : TemplateSet) (catalogue : Catalogue) (config : Config)
    (system : FileSystem) :
    let after := (generateWith templates catalogue config system).1
    let result := (generateWith templates catalogue config system).2
    generateWith templates catalogue config after = (after, result) ∧
    ∀ other, system.SameOutline other →
      (generateWith templates catalogue config other).2 = result ∧
      (∀ kind, Reached templates catalogue config Kind.all system kind →
        ∀ place, system.locate (config.pathFor kind) = .ok place →
          (generateWith templates catalogue config other).1.get? place = after.get? place) ∧
      ∀ place, (∀ kind, Reached templates catalogue config Kind.all system kind →
          system.locate (config.pathFor kind) ≠ .ok place) →
        (generateWith templates catalogue config other).1.get? place = other.get? place := by
  intro after result
  obtain ⟨writes, hw⟩ := exists_puts templates catalogue config Kind.all system
  have hrun : ∀ start, system.Between (system.putAll writes) start →
      generateWith templates catalogue config start = (start.putAll writes, result) :=
    hw.emitAll_eq
  have hafter : after = system.putAll writes :=
    congrArg Prod.fst (hrun system ⟨rfl, fun _ => .inl rfl⟩)
  constructor
  · rw [hafter, hrun _ ⟨FileSystem.current_putAll _ _, fun _ => .inr rfl⟩,
      FileSystem.putAll_putAll]
  · intro other hsame
    have hother := hrun other ⟨hsame.current, fun place => .inl (hsame.outline place)⟩
    rw [hother, hafter]
    refine ⟨rfl, fun kind hreached place hl => ?_, fun place hfar => ?_⟩
    · obtain ⟨-, entry, hlast⟩ | ⟨hnone, hkept⟩ := FileSystem.get?_putAll_cases writes place
      · rw [hlast, hlast]
      · -- No file is put there, so that there is a directory or a device, which is in both.
        rw [hkept, hkept]
        apply hsame.get?_eq
        intro ht
        have ho := (FileSystem.opening_eq_ok_iff _ _ _ _).mpr ⟨hl, ht⟩
        exact hnone ((hw.mem_iff place).mpr ⟨kind, hreached, ho⟩)
    · obtain ⟨hmem, -⟩ | ⟨-, hkept⟩ := FileSystem.get?_putAll_cases writes place
      · obtain ⟨kind, hreached, ho⟩ := (hw.mem_iff place).mp hmem
        have hl := ((FileSystem.opening_eq_ok_iff _ _ _ _).mp ho).1
        exact absurd hl (hfar kind hreached)
      · exact hkept other

theorem generateWith_again_below :
    let templates : TemplateSet := ⟨[("scalar to pointer", [.text "whole"])]⟩
    let config := (Config.default.withFile .toPointer "out").withFile .fromPointer "out/below"
    let holding (text : String) : FileSystem :=
      ⟨[([], .directory), (["out"], .file (Content.empty.append text))], []⟩
    let after := (generateWith templates Catalogue.standard config (holding "notes")).1
    let stopped : Except GenerationError (List Path) :=
      .error (.creation ⟨"./out/below"⟩ .notDirectory)
    (holding "notes").SameOutline (holding "other notes") ∧
    generateWith templates Catalogue.standard config after = (after, stopped) ∧
    (generateWith templates Catalogue.standard config (holding "other notes")).2 = stopped ∧
    (generateWith templates Catalogue.standard config (holding "other notes")).1.get? ["out"] =
      after.get? ["out"] := by
  intro templates config holding after stopped
  have hsame : (holding "notes").SameOutline (holding "other notes") := by
    refine ⟨rfl, fun location => ?_⟩
    simp only [holding, FileSystem.outline, FileSystem.get?, FileSystem.lookup_cons_eq]
    split_ifs <;> rfl
  have hstopped : (generateWith templates Catalogue.standard config (holding "notes")).2 =
      stopped := by
    decide +kernel
  have hpath : (holding "notes").locate (config.pathFor .toPointer) = .ok ["out"] := by
    decide +kernel
  obtain ⟨hagain, hother⟩ :=
    generateWith_again templates Catalogue.standard config (holding "notes")
  obtain ⟨hresult, hleft, -⟩ := hother (holding "other notes") hsame
  rw [hstopped] at hagain hresult
  exact ⟨hsame, hagain, hresult, hleft .toPointer .first ["out"] hpath⟩

end PointerHelpers.Document
