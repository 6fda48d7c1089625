import PointerHelpers.Proofs.Document.Emission

namespace PointerHelpers.Document

open Files Output Template

structure Rewritten (before : FileSystem) (location : Location) (content : List UInt8)
    (after : FileSystem) : Prop where
  current : after.current = before.current
  content : ∃ stored, after.get? location = some (.file stored) ∧ stored.bytes.data.toList = content
  others : ∀ place, place ≠ location → after.get? place = before.get? place

variable (templates : TemplateSet) (catalogue : Catalogue) (config : Config)

/-- What writing one document does. The bytes are those that a receiver without limits gets. -/
inductive Emitted (kind : Kind) (before : FileSystem) :
    FileSystem → Except GenerationError Path → Prop where
  | refused {error : SystemError} (creation : before.create (config.pathFor kind) = .error error) :
    Emitted kind before before (.error (.creation (config.pathFor kind) error))
  | broken {location : Location} {content : List UInt8} {after : FileSystem} {fault : RenderFault}
    (place : before.locate (config.pathFor kind) = .ok location)
    (free : before.get? location ≠ some .directory)
    (rendering : Receiver.unlimited.deliver (render templates kind catalogue config) =
      (content, .error (.rendering fault)))
    (rewritten : Rewritten before location content after) :
    Emitted kind before after (.error (.delivery (config.pathFor kind) kind (.rendering fault)))
  | written {location : Location} {content : List UInt8} {after : FileSystem}
    (place : before.locate (config.pathFor kind) = .ok location)
    (free : before.get? location ≠ some .directory)
    (rendering : Receiver.unlimited.deliver (render templates kind catalogue config) =
      (content, .ok ()))
    (rewritten : Rewritten before location content after) :
    Emitted kind before after (.ok (config.pathFor kind))

/-- What writing documents in order does. It stops at the first that fails. -/
inductive Generated : List Kind → FileSystem → FileSystem → Except GenerationError (List Path) →
    Prop where
  | done {system : FileSystem} : Generated [] system system (.ok [])
  | stopped {kind : Kind} {rest : List Kind} {before after : FileSystem} {error : GenerationError}
    (first : Emitted templates catalogue config kind before after (.error error)) :
    Generated (kind :: rest) before after (.error error)
  | followed {kind : Kind} {rest : List Kind} {before between after : FileSystem} {path : Path}
    {result : Except GenerationError (List Path)}
    (first : Emitted templates catalogue config kind before between (.ok path))
    (later : Generated rest between after result) :
    Generated (kind :: rest) before after (result.map (path :: ·))

variable {templates catalogue config} {kind : Kind} {before after : FileSystem}

namespace Rewritten

variable {location : Location} {content : List UInt8}

theorem put (before : FileSystem) (location : Location) (text : String) :
    Rewritten before location (bytes text)
      (before.put location (.file (Content.empty.append text))) := by
  refine ⟨rfl, ⟨_, FileSystem.get?_put_self _ _ _, ?_⟩, fun place hp => ?_⟩
  · rw [Content.append, Content.empty, ByteArray.empty_append]
    rfl
  · rw [FileSystem.get?_put, if_neg hp]

theorem sameDirectories (h : Rewritten before location content after)
    (hd : before.get? location ≠ some .directory) : before.SameDirectories after := by
  refine ⟨h.current, fun place => ?_⟩
  by_cases hp : place = location
  · obtain ⟨stored, hg, -⟩ := h.content
    rw [hp, hg]
    simp [hd]
  · rw [h.others place hp]

theorem avoidsDevices (h : Rewritten before location content after)
    (hd : before.get? location ≠ some .directory) {path : Path}
    (hs : before.AvoidsDevices path) : after.AvoidsDevices path := by
  intro place hl device
  by_cases hp : place = location
  · obtain ⟨stored, hg, -⟩ := h.content
    rw [hp, hg]
    simp
  · rw [h.others place hp]
    exact hs place (((h.sameDirectories hd).locate_eq_ok_iff _ _).mp hl) device

end Rewritten

namespace Emitted

variable {result : Except GenerationError Path}

theorem sameDirectories (h : Emitted templates catalogue config kind before after result) :
    before.SameDirectories after := by
  cases h with
  | refused _ => exact .refl before
  | broken _ free _ rewritten | written _ free _ rewritten => exact rewritten.sameDirectories free

theorem avoidsDevices (h : Emitted templates catalogue config kind before after result)
    {path : Path} (hs : before.AvoidsDevices path) : after.AvoidsDevices path := by
  cases h with
  | refused _ => exact hs
  | broken _ free _ rewritten | written _ free _ rewritten => exact rewritten.avoidsDevices free hs

theorem get?_eq (h : Emitted templates catalogue config kind before after result)
    {place : Location} (hp : before.locate (config.pathFor kind) ≠ .ok place) :
    after.get? place = before.get? place := by
  cases h with
  | refused _ => rfl
  | broken located _ _ rewritten | written located _ _ rewritten =>
    apply rewritten.others
    rintro rfl
    exact hp located

end Emitted

theorem exists_of_map_eq_ok {ε α β : Type} {first : Except ε α} {f : α → β} {second : β}
    (h : first.map f = .ok second) : ∃ value, first = .ok value ∧ second = f value := by
  cases first with
  | error error => cases h
  | ok value =>
    cases h
    exact ⟨value, rfl, rfl⟩

theorem exists_map_eq_ok_iff {ε α β : Type} (first : Except ε α) (f : α → β) :
    (∃ second, first.map f = .ok second) ↔ ∃ value, first = .ok value := by
  cases first <;> simp [Except.map]

theorem map_eq_error {ε α β : Type} {first : Except ε α} {f : α → β} {error : ε}
    (h : first.map f = .error error) : first = .error error := by
  cases first with
  | error known =>
    cases h
    rfl
  | ok value => cases h

theorem emitAll_cons (kind : Kind) (rest : List Kind) :
    emitAll templates catalogue config before (kind :: rest) =
      match emit templates catalogue config kind before with
      | (between, .error error) => (between, .error error)
      | (between, .ok path) =>
        ((emitAll templates catalogue config between rest).1,
          (emitAll templates catalogue config between rest).2.map (path :: ·)) := by
  rfl

theorem emit_emitted (hs : before.AvoidsDevices (config.pathFor kind)) :
    Emitted templates catalogue config kind before
      (emit templates catalogue config kind before).1
      (emit templates catalogue config kind before).2 := by
  rcases ho : before.opening (config.pathFor kind) with error | ⟨location, _ | device⟩
  all_goals rw [emit_of_opening_eq ho]
  · apply Emitted.refused
    rw [FileSystem.create_eq, ho]
  · obtain ⟨hl, ht⟩ := (FileSystem.opening_eq_ok_iff _ _ _ _).mp ho
    have hd : before.get? location ≠ some .directory := by
      intro hd
      cases hd ▸ ht
    have hr := Receiver.deliver_unlimited (render templates kind catalogue config)
    have hw := Rewritten.put before location (render templates kind catalogue config).output
    rw [emissionResult, deliveryEnding]
    rw [ending] at hr ⊢
    cases hfault : (render templates kind catalogue config).fault with
    | none =>
      rw [hfault] at hr
      exact .written hl hd hr hw
    | some fault =>
      rw [hfault] at hr
      exact .broken hl hd hr hw
  · obtain ⟨hl, ht⟩ := (FileSystem.opening_eq_ok_iff _ _ _ _).mp ho
    exact absurd ((Entry.target_eq_device_iff _ _).mp ht) (hs location hl device)

theorem emitAll_generated_of_avoidsDevices (kinds : List Kind)
    (hs : ∀ kind ∈ kinds, before.AvoidsDevices (config.pathFor kind)) :
    Generated templates catalogue config kinds before
      (emitAll templates catalogue config before kinds).1
      (emitAll templates catalogue config before kinds).2 := by
  induction kinds generalizing before with
  | nil => exact .done
  | cons kind rest ih =>
    rw [List.forall_mem_cons] at hs
    have hstep : Emitted templates catalogue config kind before
        (emit templates catalogue config kind before).1
        (emit templates catalogue config kind before).2 := emit_emitted hs.1
    rw [emitAll_cons]
    rcases he : emit templates catalogue config kind before with ⟨between, error | path⟩
    · rw [he] at hstep
      exact .stopped hstep
    · rw [he] at hstep
      exact .followed hstep (ih fun next hn => hstep.avoidsDevices (hs.2 next hn))

theorem emitAll_generated (hs : before.IsRegular) (kinds : List Kind) :
    Generated templates catalogue config kinds before
      (emitAll templates catalogue config before kinds).1
      (emitAll templates catalogue config before kinds).2 :=
  emitAll_generated_of_avoidsDevices kinds fun _ _ => hs.avoidsDevices _

namespace Generated

variable {kinds : List Kind} {result : Except GenerationError (List Path)}

theorem sameDirectories (h : Generated templates catalogue config kinds before after result) :
    before.SameDirectories after := by
  induction h with
  | done => exact .refl _
  | stopped first => exact first.sameDirectories
  | followed first _ ih => exact first.sameDirectories.trans ih

theorem get?_eq (h : Generated templates catalogue config kinds before after result)
    {place : Location}
    (hp : ∀ kind ∈ kinds, before.locate (config.pathFor kind) ≠ .ok place) :
    after.get? place = before.get? place := by
  induction h with
  | done => rfl
  | stopped first => exact first.get?_eq (hp _ List.mem_cons_self)
  | followed first _ ih =>
    rw [List.forall_mem_cons] at hp
    have hrest := ih fun kind hk he =>
      hp.2 kind hk ((first.sameDirectories.locate_eq_ok_iff _ _).mp he)
    rw [hrest, first.get?_eq hp.1]

theorem eq_of_ok (h : Generated templates catalogue config kinds before after result)
    {paths : List Path} (hr : result = .ok paths) : paths = kinds.map config.pathFor := by
  induction h generalizing paths with
  | done =>
    cases hr
    rfl
  | stopped _ => cases hr
  | followed first _ ih =>
    cases first with
    | written =>
      obtain ⟨later, hl, hp⟩ := exists_of_map_eq_ok hr
      rw [List.map_cons, ← ih hl, hp]

end Generated

/-- A generation writes the documents of both kinds in order, each as far as its rendering goes, up
to the first failure. No directory and no other file changes, and it succeeds with both paths. -/
theorem generateWith_generated (templates : TemplateSet) (catalogue : Catalogue) (config : Config)
    {system : FileSystem} (hs : system.IsRegular) :
    let after := (generateWith templates catalogue config system).1
    let result := (generateWith templates catalogue config system).2
    Generated templates catalogue config [.toPointer, .fromPointer] system after result ∧
    system.SameDirectories after ∧
    (∀ place, (∀ kind, system.locate (config.pathFor kind) ≠ .ok place) →
      after.get? place = system.get? place) ∧
    ∀ paths, result = .ok paths →
      paths = [config.pathFor .toPointer, config.pathFor .fromPointer] := by
  intro after result
  have h : Generated templates catalogue config [.toPointer, .fromPointer] system after result :=
    emitAll_generated hs Kind.all
  exact ⟨h, h.sameDirectories, fun place hp => h.get?_eq fun kind _ => hp kind,
    fun paths hr => h.eq_of_ok hr⟩

/-- The first document breaks off. What the file held before is gone, and the file beside it is as
it was. -/
theorem generateWith_generated_broken :
    let templates : TemplateSet :=
      ⟨[("scalar to pointer", [.text "partial", .inclusion "header"])]⟩
    let notes : Content := Content.empty.append "notes"
    let system : FileSystem := ⟨[([], .directory), (["to_ptr.go"], .file notes),
      (["notes"], .file notes)], []⟩
    let after := (generateWith templates Catalogue.standard Config.default system).1
    let result := (generateWith templates Catalogue.standard Config.default system).2
    system.IsRegular ∧
    result = .error (.delivery ⟨"./to_ptr.go"⟩ .toPointer
      (.rendering (.unknownTemplate "header"))) ∧
    Rewritten system ["to_ptr.go"] (bytes "partial") after ∧
    after.get? ["notes"] = some (.file notes) := by
  intro templates notes system after result
  have hs : system.IsRegular := by
    intro location device
    simp only [system, FileSystem.get?, FileSystem.lookup_cons_eq, List.lookup_nil]
    split_ifs <;> simp
  have hd : Receiver.unlimited.deliver
      (render templates .toPointer Catalogue.standard Config.default) =
        (bytes "partial", .error (.rendering (.unknownTemplate "header"))) := by
    rw [Receiver.deliver_unlimited]
    decide +kernel
  have hl : system.locate (Config.default.pathFor .toPointer) = .ok ["to_ptr.go"] := by rfl
  have hc : system.create (Config.default.pathFor .toPointer) =
      .ok (["to_ptr.go"], system.put ["to_ptr.go"] (.file .empty)) := by rfl
  obtain ⟨h, -, ho, -⟩ := generateWith_generated templates Catalogue.standard Config.default hs
  have hn : after.get? ["notes"] = some (.file notes) := by
    refine (ho ["notes"] fun kind => ?_).trans (by rfl)
    cases kind <;> decide +kernel
  refine ⟨hs, ?_⟩
  change Generated _ _ _ _ _ after result at h
  clear_value after result
  cases h with
  | stopped first =>
    cases first with
    | refused creation => cases creation.symm.trans hc
    | broken place _ rendering rewritten =>
      cases place.symm.trans hl
      cases rendering.symm.trans hd
      exact ⟨rfl, rewritten, hn⟩
  | followed first _ =>
    cases first with
    | written _ _ rendering _ => cases rendering.symm.trans hd

end PointerHelpers.Document
