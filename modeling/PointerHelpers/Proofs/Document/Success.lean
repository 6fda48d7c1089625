import PointerHelpers.Proofs.Document.Generation

namespace PointerHelpers.Files.FileSystem

variable {system other : FileSystem}

def Admits (system : FileSystem) (path : Path) : Prop :=
  ∃ location, system.locate path = .ok location ∧ system.get? location ≠ some .directory

theorem SameDirectories.admits_iff (h : SameDirectories system other) (path : Path) :
    other.Admits path ↔ system.Admits path := by
  simp only [Admits, ne_eq, h.locate_eq_ok_iff, h.directory]

theorem not_admits_of_create_eq_error {path : Path} {error : SystemError}
    (h : system.create path = .error error) : ¬ system.Admits path := by
  rintro ⟨location, hl, hd⟩
  rw [create, hl] at h
  cases hg : system.get? location with
  | none => simp [hg] at h
  | some entry => cases entry <;> simp_all

end PointerHelpers.Files.FileSystem

namespace PointerHelpers.Document

open Files Output Template

variable {templates : TemplateSet} {catalogue : Catalogue} {config : Config} {kind : Kind}
  {before after : FileSystem}

theorem Emitted.exists_ok_iff {result : Except GenerationError Path}
    (h : Emitted templates catalogue config kind before after result) :
    (∃ path, result = .ok path) ↔
      before.Admits (config.pathFor kind) ∧
        (render templates kind catalogue config).fault = none := by
  cases h with
  | refused creation =>
    simp [FileSystem.not_admits_of_create_eq_error creation]
  | broken _ _ rendering _ =>
    have hf := Receiver.fault_of_deliver _ (congrArg Prod.snd rendering)
    simp [hf]
  | written place free rendering _ =>
    have hf := Receiver.fault_eq_none_of_deliver _ (congrArg Prod.snd rendering)
    exact iff_of_true ⟨_, rfl⟩ ⟨⟨_, place, free⟩, hf⟩

namespace Generated

variable {kinds : List Kind} {result : Except GenerationError (List Path)}

theorem exists_ok_iff (h : Generated templates catalogue config kinds before after result) :
    (∃ paths, result = .ok paths) ↔
      ∀ kind ∈ kinds, before.Admits (config.pathFor kind) ∧
        (render templates kind catalogue config).fault = none := by
  induction h with
  | done => simp
  | stopped first =>
    have hn := mt first.exists_ok_iff.mpr (by simp)
    exact iff_of_false (by simp) fun hall => hn (hall _ List.mem_cons_self)
  | followed first _ ih =>
    -- The later documents meet other files, but lead to the same places.
    have hd := first.sameDirectories
    rw [exists_map_eq_ok_iff, ih, List.forall_mem_cons,
      and_iff_right (first.exists_ok_iff.mp ⟨_, rfl⟩)]
    simp only [hd.admits_iff]

end Generated

end PointerHelpers.Document
