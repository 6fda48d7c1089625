import PointerHelpers.Proofs.Document.Emission

namespace PointerHelpers.Files.FileSystem

variable {system : FileSystem} {path : Path}

def Refuses (system : FileSystem) (path : Path) : Prop :=
  ∃ location opened, system.create path = .ok (location, opened) ∧
    ∀ text, text ≠ "" → ∃ error, opened.append location text = .error error

theorem Refuses.opening_eq (h : system.Refuses path) :
    ∃ location, system.opening path = .ok (location, some .full) := by
  obtain ⟨location, opened, hc, hrefused⟩ := h
  obtain ⟨error, ha⟩ := hrefused "text" (by decide)
  rw [create_eq] at hc
  rcases ho : system.opening path with error | ⟨place, _ | _ | _⟩
  · rw [ho] at hc
    cases hc
  · rw [ho] at hc
    cases hc
    rw [append_of_file (get?_put_self _ _ _)] at ha
    cases ha
  · obtain ⟨-, ht⟩ := (opening_eq_ok_iff _ _ _ _).mp ho
    rw [ho] at hc
    cases hc
    rw [append, (Entry.target_eq_device_iff _ _).mp ht] at ha
    cases ha
  · exact ⟨place, rfl⟩

end PointerHelpers.Files.FileSystem

namespace PointerHelpers.Document

open Catalogue Files Output Template

/-- Writing a document to what refuses every byte changes nothing. It succeeds exactly if the
document renders and is empty. Otherwise the delivery failed: by the device, if the document renders
or has more bytes than the buffer before its fault, and by the fault, if it has fewer. Where the
bytes just fill the buffer, they are offered to the device only if they are one text. -/
theorem emit_refused (templates : TemplateSet) (catalogue : Catalogue) (config : Config)
    (kind : Kind) {system : FileSystem} (h : system.Refuses (config.pathFor kind)) :
    let rendering := render templates kind catalogue config
    let result := (emit templates catalogue config kind system).2
    let failed (error : DeliveryError SystemError) : Except GenerationError Path :=
      .error (.delivery (config.pathFor kind) kind error)
    (emit templates catalogue config kind system).1 = system ∧
    (result = .ok (config.pathFor kind) ↔ rendering.fault = none ∧ rendering.output = "") ∧
    (result = .ok (config.pathFor kind) ∨ ∃ error, result = failed error) ∧
    (rendering.fault = none → rendering.output ≠ "" → result = failed (.output .noSpace)) ∧
    (bufferBytes < rendering.output.utf8ByteSize → result = failed (.output .noSpace)) ∧
    (∀ fault, rendering.fault = some fault → rendering.output.utf8ByteSize < bufferBytes →
      result = failed (.rendering fault)) ∧
    (∀ fault, rendering.fault = some fault → rendering.output.utf8ByteSize = bufferBytes →
      result = failed (if ∃ text ∈ rendering.pieces, bufferBytes ≤ text.utf8ByteSize then
        .output .noSpace else .rendering fault)) := by
  intro rendering result failed
  obtain ⟨location, ho⟩ := h.opening_eq
  have he : emit templates catalogue config kind system = _ := emit_of_opening_eq ho
  have hsystem : (emit templates catalogue config kind system).1 = system := congrArg Prod.fst he
  have hresult : result = emissionResult templates catalogue config kind
      (.ok (location, some .full)) := congrArg Prod.snd he
  have hfailed {error : DeliveryError SystemError}
      (hd : Device.full.ending rendering = .error error) : result = failed error :=
    hresult.trans (emissionResult_of_error hd)
  have hok : result = .ok (config.pathFor kind) ↔ Device.full.ending rendering = .ok () := by
    cases hd : Device.full.ending rendering with
    | error error => simp [hfailed hd, failed]
    | ok _ => exact iff_of_true (hresult.trans (emissionResult_of_ok hd)) rfl
  refine ⟨hsystem, hok.trans (Device.ending_full_eq_ok_iff _), ?_, fun hf hne => ?_,
    fun hsize => ?_, fun fault hf hsize => ?_, fun fault hf hsize => ?_⟩
  · cases hd : Device.full.ending rendering with
    | error error => exact .inr ⟨error, hfailed hd⟩
    | ok _ => exact .inl (hok.mpr hd)
  · exact hfailed (Device.ending_full_of_ne hf hne)
  · exact hfailed (Device.ending_full_of_overflows (overflows_of_lt hsize))
  · apply hfailed
    apply Device.ending_full_of_not_overflows hf
    intro hover
    have hle := hover.bufferBytes_le
    omega
  · apply hfailed
    by_cases hlarge : ∃ text ∈ rendering.pieces, bufferBytes ≤ text.utf8ByteSize
    · rw [if_pos hlarge]
      exact Device.ending_full_of_overflows ((overflows_iff_of_eq hsize).mpr hlarge)
    · rw [if_neg hlarge]
      exact Device.ending_full_of_not_overflows hf (mt (overflows_iff_of_eq hsize).mp hlarge)

/-- At the full device, the same few bytes are refused if the document ends with them, and are not
missed if it breaks off after them. -/
theorem emit_refused_few_bytes :
    let config := Config.default.withFile .toPointer "/dev/full"
    let whole : TemplateSet := ⟨[("scalar to pointer", [.text "partial"])]⟩
    let broken : TemplateSet :=
      ⟨[("scalar to pointer", [.text "partial", .inclusion "header"])]⟩
    FileSystem.fresh.Refuses (config.pathFor .toPointer) ∧
    (emit whole Catalogue.standard config .toPointer FileSystem.fresh).2 =
      .error (.delivery ⟨"/dev/full"⟩ .toPointer (.output .noSpace)) ∧
    (emit broken Catalogue.standard config .toPointer FileSystem.fresh).2 =
      .error (.delivery ⟨"/dev/full"⟩ .toPointer (.rendering (.unknownTemplate "header"))) := by
  intro config whole broken
  have hrefuses : FileSystem.fresh.Refuses (config.pathFor .toPointer) := by
    refine ⟨["dev", "full"], FileSystem.fresh, by decide +kernel, fun text ht => ⟨.noSpace, ?_⟩⟩
    have hfull : FileSystem.fresh.get? ["dev", "full"] = some (.device .full) := by rfl
    rw [FileSystem.append, hfull]
    exact if_neg ht
  have hpath : config.pathFor .toPointer = ⟨"/dev/full"⟩ := by decide
  obtain ⟨-, -, -, hwhole, -⟩ :=
    emit_refused whole Catalogue.standard config .toPointer hrefuses
  obtain ⟨-, -, -, -, -, hbroken, -⟩ :=
    emit_refused broken Catalogue.standard config .toPointer hrefuses
  rw [hpath] at hwhole hbroken
  exact ⟨hrefuses, hwhole (by decide +kernel) (by decide +kernel),
    hbroken (.unknownTemplate "header") (by decide +kernel) (by decide +kernel)⟩

end PointerHelpers.Document
