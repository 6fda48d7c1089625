import PointerHelpers.Document.Generation
import PointerHelpers.Proofs.Files.Buffer
import PointerHelpers.Proofs.Files.Devices
import PointerHelpers.Proofs.Files.Opening
import PointerHelpers.Proofs.Files.Writes

namespace PointerHelpers.Document

open Files Output Template

variable (templates : TemplateSet) (catalogue : Catalogue) (config : Config) (kind : Kind)

def deliveryEnding (device : Option Device) : Except (DeliveryError SystemError) Unit :=
  match device with
  | some device => device.ending (render templates kind catalogue config)
  | none => ending (render templates kind catalogue config)

def emittedFile : Except SystemError (Location × Option Device) → List (Location × Entry)
  | .ok (location, none) =>
    [(location, .file (Content.empty.append (render templates kind catalogue config).output))]
  | .ok (_, some _) | .error _ => []

def emissionResult :
    Except SystemError (Location × Option Device) → Except GenerationError Path
  | .error error => .error (.creation (config.pathFor kind) error)
  | .ok (_, device) =>
    match deliveryEnding templates catalogue config kind device with
    | .error error => .error (.delivery (config.pathFor kind) kind error)
    | .ok () => .ok (config.pathFor kind)

variable {templates catalogue config kind} {system : FileSystem}

theorem emissionResult_of_error {location : Location} {device : Option Device}
    {error : DeliveryError SystemError}
    (hd : deliveryEnding templates catalogue config kind device = .error error) :
    emissionResult templates catalogue config kind (.ok (location, device)) =
      .error (.delivery (config.pathFor kind) kind error) := by
  rw [emissionResult, hd]

theorem emissionResult_of_ok {location : Location} {device : Option Device}
    (hd : deliveryEnding templates catalogue config kind device = .ok ()) :
    emissionResult templates catalogue config kind (.ok (location, device)) =
      .ok (config.pathFor kind) := by
  rw [emissionResult, hd]

theorem emit_of_create_eq_error {error : SystemError}
    (hc : system.create (config.pathFor kind) = .error error) :
    emit templates catalogue config kind system =
      (system, .error (.creation (config.pathFor kind) error)) := by
  delta emit
  simp only [hc]

theorem emit_of_create_eq_ok {location : Location} {created : FileSystem}
    {delivered : FileSystem × Except (DeliveryError SystemError) Unit}
    (hc : system.create (config.pathFor kind) = .ok (location, created))
    (hd : (Buffer.mk created location "").deliver (render templates kind catalogue config) =
      delivered) :
    emit templates catalogue config kind system =
      (delivered.1, match delivered.2 with
        | .error error => .error (.delivery (config.pathFor kind) kind error)
        | .ok () => .ok (config.pathFor kind)) := by
  delta emit
  simp only [hc, hd]
  rcases delivered with ⟨written, error | _⟩
  · rfl
  · rfl

theorem emit_of_opening_eq {opened : Except SystemError (Location × Option Device)}
    (ho : system.opening (config.pathFor kind) = opened) :
    emit templates catalogue config kind system =
      (system.putAll (emittedFile templates catalogue config kind opened),
        emissionResult templates catalogue config kind opened) := by
  have hc := system.create_eq (config.pathFor kind)
  rw [ho] at hc
  rcases opened with error | ⟨location, device | _⟩
  · exact emit_of_create_eq_error hc
  · -- A file, made empty first.
    have hf : Buffer.Fills ⟨system.put location (.file .empty), location, ""⟩ system location
        .empty := ⟨rfl, .empty, rfl, Content.append_empty _⟩
    rw [emit_of_create_eq_ok hc (Buffer.deliver_eq hf _)]
    rfl
  · obtain ⟨-, ht⟩ := (FileSystem.opening_eq_ok_iff _ _ _ _).mp ho
    rw [Entry.target_eq_device_iff] at ht
    rw [emit_of_create_eq_ok hc (Buffer.deliver_device ht _)]
    rfl

end PointerHelpers.Document
