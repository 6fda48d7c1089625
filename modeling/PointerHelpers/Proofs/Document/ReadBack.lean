import PointerHelpers.Proofs.Document.Generation

namespace PointerHelpers.Files.FileSystem

variable {system other : FileSystem}

def Reads (system : FileSystem) (path : Path) (content : List UInt8) : Prop :=
  ∃ location stored, system.locate path = .ok location ∧
    system.get? location = some (.file stored) ∧ stored.bytes.data.toList = content

theorem Reads.unique {path : Path} {content content' : List UInt8} (h : system.Reads path content)
    (h' : system.Reads path content') : content = content' := by
  obtain ⟨location, stored, hl, hg, rfl⟩ := h
  obtain ⟨location', stored', hl', hg', rfl⟩ := h'
  cases hl.symm.trans hl'
  cases hg.symm.trans hg'
  rfl

def Apart (system : FileSystem) (path second : Path) : Prop :=
  ∀ location, system.locate path = .ok location → system.locate second ≠ .ok location

theorem SameDirectories.apart_iff (h : SameDirectories system other) (path second : Path) :
    other.Apart path second ↔ system.Apart path second := by
  simp only [Apart, ne_eq, h.locate_eq_ok_iff]

theorem Reads.iff_of_not_apart {path second : Path} {content : List UInt8}
    (h : system.Reads second content) (ha : ¬ system.Apart path second) (content' : List UInt8) :
    system.Reads path content' ↔ content' = content := by
  obtain ⟨location, hp, hs⟩ : ∃ location, system.locate path = .ok location ∧
      system.locate second = .ok location := by
    simpa [Apart] using ha
  have hsame : system.Reads path content := by
    rw [Reads, hs] at h
    rwa [Reads, hp]
  exact ⟨fun h' => h'.unique hsame, fun he => he ▸ hsame⟩

end PointerHelpers.Files.FileSystem

namespace PointerHelpers.Document

open Files Output Template

variable {templates : TemplateSet} {catalogue : Catalogue} {config : Config} {kind : Kind}
  {before after : FileSystem}

theorem collect_eq_ok_of_deliver {rendering : Rendering} {content : List UInt8}
    (h : Receiver.unlimited.deliver rendering = (content, .ok ())) :
    content = bytes rendering.output ∧ collect rendering = .ok rendering.output := by
  rw [collect, h]
  rw [Receiver.deliver_unlimited, Prod.mk.injEq] at h
  obtain ⟨rfl, -⟩ := h
  exact ⟨rfl, congrArg Except.ok (decode_bytes _)⟩

theorem Emitted.rewritten_of_ok {path : Path}
    (h : Emitted templates catalogue config kind before after (.ok path)) :
    collect (render templates kind catalogue config) =
        .ok (render templates kind catalogue config).output ∧
      ∃ location, before.locate (config.pathFor kind) = .ok location ∧
        Rewritten before location (bytes (render templates kind catalogue config).output)
          after := by
  cases h with
  | written place _ rendering rewritten =>
    obtain ⟨rfl, hc⟩ := collect_eq_ok_of_deliver rendering
    exact ⟨hc, _, place, rewritten⟩

namespace Generated

variable {kinds : List Kind} {result : Except GenerationError (List Path)}

theorem collect_of_ok (h : Generated templates catalogue config kinds before after result)
    {paths : List Path} (hr : result = .ok paths) :
    ∀ kind ∈ kinds, collect (render templates kind catalogue config) =
      .ok (render templates kind catalogue config).output := by
  induction h generalizing paths with
  | done => simp
  | stopped _ => cases hr
  | followed first _ ih =>
    obtain ⟨later, hl, -⟩ := exists_of_map_eq_ok hr
    exact List.forall_mem_cons.mpr ⟨first.rewritten_of_ok.1, ih hl⟩

/-- Run: a document can be read unless a later one is written to the same file. -/
theorem reads_of_ok (h : Generated templates catalogue config kinds before after result)
    {paths : List Path} (hr : result = .ok paths) (earlier : List Kind) {later : List Kind}
    (hk : kinds = earlier ++ kind :: later)
    (ha : ∀ next ∈ later, before.Apart (config.pathFor kind) (config.pathFor next)) :
    after.Reads (config.pathFor kind) (bytes (render templates kind catalogue config).output) := by
  induction h generalizing paths earlier with
  | done => simp at hk
  | stopped _ => cases hr
  | followed first rest ih =>
    obtain ⟨_, hl, -⟩ := exists_of_map_eq_ok hr
    have hd := first.sameDirectories
    cases earlier with
    | nil =>
      cases hk
      obtain ⟨-, location, hp, hw⟩ := first.rewritten_of_ok
      obtain ⟨stored, hg, hc⟩ := hw.content
      refine ⟨location, stored, ?_, ?_, hc⟩
      · exact ((hd.trans rest.sameDirectories).locate_eq_ok_iff _ _).mpr hp
      · rw [← hg]
        exact rest.get?_eq fun next hn => mt (hd.locate_eq_ok_iff _ _).mp (ha next hn location hp)
    | cons known earlier =>
      cases hk
      exact ih hl earlier rfl fun next hn => (hd.apart_iff _ _).mpr (ha next hn)

end Generated

/-- After a generation that succeeds the second document can be read, and both can unless the two
paths lead to one file and the two documents differ. -/
theorem generateWith_reads_iff (templates : TemplateSet) (catalogue : Catalogue) (config : Config)
    {system : FileSystem} (hs : system.IsRegular) {paths : List Path}
    (hr : (generateWith templates catalogue config system).2 = .ok paths) :
    let after := (generateWith templates catalogue config system).1
    ∃ texts : Kind → String,
      (∀ kind, collect (render templates kind catalogue config) = .ok (texts kind)) ∧
      after.Reads (config.pathFor .fromPointer) (bytes (texts .fromPointer)) ∧
      ((∀ kind, after.Reads (config.pathFor kind) (bytes (texts kind))) ↔
        system.Apart (config.pathFor .toPointer) (config.pathFor .fromPointer) ∨
          texts .toPointer = texts .fromPointer) := by
  intro after
  have h : Generated templates catalogue config [.toPointer, .fromPointer] system after
      (.ok paths) := hr ▸ emitAll_generated hs Kind.all
  let texts (kind : Kind) : String := (render templates kind catalogue config).output
  have hfrom : after.Reads (config.pathFor .fromPointer) (bytes (texts .fromPointer)) :=
    h.reads_of_ok rfl [.toPointer] rfl (by simp)
  have hboth : (∀ kind, after.Reads (config.pathFor kind) (bytes (texts kind))) ↔
      after.Reads (config.pathFor .toPointer) (bytes (texts .toPointer)) := by
    refine ⟨fun hall => hall .toPointer, fun hto kind => ?_⟩
    cases kind with
    | toPointer => exact hto
    | fromPointer => exact hfrom
  refine ⟨texts, fun kind => h.collect_of_ok rfl kind (by cases kind <;> simp), hfrom, ?_⟩
  rw [hboth]
  by_cases ha : system.Apart (config.pathFor .toPointer) (config.pathFor .fromPointer)
  · exact iff_of_true (h.reads_of_ok rfl [] rfl (by simpa using ha)) (.inl ha)
  · have hshared := mt (h.sameDirectories.apart_iff _ _).mp ha
    rw [hfrom.iff_of_not_apart hshared, or_iff_right ha]
    exact ⟨fun he => bytes_injective he, congrArg bytes⟩

theorem generateWith_reads_iff_parent :
    let templates : TemplateSet :=
      ⟨[("scalar to pointer", [.text "to"]), ("scalar from pointer", [.text "from"])]⟩
    let config : Config := { toPointerFile := "ptr.go", fromPointerFile := "../ptr.go" }
    let system : FileSystem := ⟨[([], .directory), (["out"], .directory)], ["out"]⟩
    let result := generateWith templates Catalogue.standard config system
    system.IsRegular ∧
    result.2 = .ok [⟨"./ptr.go"⟩, ⟨"./../ptr.go"⟩] ∧
    ∃ texts : Kind → String,
      (∀ kind, collect (render templates kind Catalogue.standard config) = .ok (texts kind)) ∧
      ∀ kind, result.1.Reads (config.pathFor kind) (bytes (texts kind)) := by
  intro templates config system result
  have hs : system.IsRegular := FileSystem.isRegular_of_entries (by simp [system])
  have hr : result.2 = .ok [⟨"./ptr.go"⟩, ⟨"./../ptr.go"⟩] := by decide +kernel
  have hto : system.locate (config.pathFor .toPointer) = .ok ["out", "ptr.go"] := by
    decide +kernel
  have hfrom : system.locate (config.pathFor .fromPointer) = .ok ["ptr.go"] := by
    decide +kernel
  have ha : system.Apart (config.pathFor .toPointer) (config.pathFor .fromPointer) := by
    simp [FileSystem.Apart, hto, hfrom]
  obtain ⟨texts, hc, -, hboth⟩ :=
    generateWith_reads_iff templates Catalogue.standard config hs hr
  exact ⟨hs, hr, texts, hc, hboth.mpr (.inl ha)⟩

/-- Nothing keeps the two paths apart: with one name for both documents a generation succeeds, and
the first document is gone. -/
theorem not_forall_generateWith_reads :
    ¬ ∀ (templates : TemplateSet) (catalogue : Catalogue) (config : Config) (system : FileSystem)
      (paths : List Path), system.IsRegular →
      (generateWith templates catalogue config system).2 = .ok paths →
      ∀ kind, ∃ text, collect (render templates kind catalogue config) = .ok text ∧
        (generateWith templates catalogue config system).1.Reads (config.pathFor kind)
          (bytes text) := by
  intro h
  let templates : TemplateSet :=
    ⟨[("scalar to pointer", [.text "to"]), ("scalar from pointer", [.text "from"])]⟩
  let config : Config := { toPointerFile := "ptr.go", fromPointerFile := "ptr.go" }
  let system : FileSystem := ⟨[([], .directory)], []⟩
  let result := generateWith templates Catalogue.standard config system
  have hs : system.IsRegular := FileSystem.isRegular_of_entries (by simp [system])
  have hr : result.2 = .ok [⟨"./ptr.go"⟩, ⟨"./ptr.go"⟩] := by decide +kernel
  have hg : result.1.get? ["ptr.go"] = some (.file (Content.empty.append "from")) := by
    decide +kernel
  have hl : result.1.locate (config.pathFor .toPointer) = .ok ["ptr.go"] := by decide +kernel
  have hc : collect (render templates .toPointer Catalogue.standard config) = .ok "to" := by
    decide +kernel
  obtain ⟨text, ht, hreads⟩ := h templates Catalogue.standard config system _ hs hr .toPointer
  cases hc.symm.trans ht
  have hfrom : result.1.Reads (config.pathFor .toPointer) (bytes "from") :=
    ⟨["ptr.go"], _, hl, hg, by decide +kernel⟩
  exact absurd (bytes_injective (hfrom.unique hreads)) (by decide)

end PointerHelpers.Document
