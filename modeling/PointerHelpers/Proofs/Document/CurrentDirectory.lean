import PointerHelpers.Proofs.Document.DocumentText
import PointerHelpers.Proofs.Document.ReadBack
import PointerHelpers.Proofs.Document.Success

namespace PointerHelpers.Files.FileSystem

open Output

def IsRegularBelow (system : FileSystem) (directory : Location) : Prop :=
  ∀ place, isBelow place directory = true → ∀ device, system.get? place ≠ some (.device device)

theorem isRegularBelow_of_entries {system : FileSystem} {directory : Location}
    (h : ∀ entry ∈ system.entries, isBelow entry.1 directory = true →
      ∀ device, entry.2 ≠ .device device) : system.IsRegularBelow directory := by
  intro place hp device hg
  obtain ⟨_, _, hs, -⟩ := List.lookup_eq_some_iff.mp hg
  exact h (place, .device device) (by simp [hs]) hp device rfl

def HoldsText (system : FileSystem) (place : Location) (text : String) : Prop :=
  ∃ stored, system.get? place = some (.file stored) ∧ stored.bytes.data.toList = bytes text

end PointerHelpers.Files.FileSystem

namespace PointerHelpers.Document

open Catalogue Files GoTemplates Output Template

def Kind.placeIn (kind : Kind) (directory : Location) : Location :=
  directory ++ [kind.defaultFileName]

theorem Kind.mem_all (kind : Kind) : kind ∈ all := by
  cases kind <;> decide

theorem Kind.isBelow_placeIn (kind : Kind) (directory : Location) :
    FileSystem.isBelow (kind.placeIn directory) directory = true := by
  simp [FileSystem.isBelow, placeIn]

theorem Kind.placeIn_injective {kind other : Kind} {directory : Location}
    (h : kind.placeIn directory = other.placeIn directory) : kind = other := by
  have hn : kind.defaultFileName = other.defaultFileName := by simpa [placeIn] using h
  cases kind <;> cases other <;> first | rfl | exact absurd hn (by decide)

theorem locate_default (system : FileSystem) (kind : Kind) :
    system.locate (Config.default.pathFor kind) = .ok (kind.placeIn system.current) := by
  cases kind <;> rfl

theorem generate_eq (catalogue : Catalogue) (config : Config) (system : FileSystem) :
    generate catalogue config system = generateWith ⟨trees⟩ catalogue config system := by
  rw [generate, templates_eq]
  rfl

theorem fault_render (kind : Kind) (catalogue : Catalogue) (config : Config) :
    (render ⟨trees⟩ kind catalogue config).fault = none :=
  ((Rendering.text_eq_ok_iff _ _).mp (text_render kind catalogue config)).1

theorem output_render (kind : Kind) (catalogue : Catalogue) (config : Config) :
    (render ⟨trees⟩ kind catalogue config).output = documentText kind catalogue config :=
  ((Rendering.text_eq_ok_iff _ _).mp (text_render kind catalogue config)).2

structure OnlyDocumentsDiffer (before after : FileSystem) : Prop where
  current : after.current = before.current
  others : ∀ place, (∀ kind : Kind, place ≠ kind.placeIn before.current) →
    after.get? place = before.get? place

section Default

variable {templates : TemplateSet} {catalogue : Catalogue} {before after : FileSystem}
  {result : Except GenerationError (List Path)}

theorem generate_generated (catalogue : Catalogue) {system : FileSystem}
    (hs : system.IsRegularBelow system.current) :
    Generated ⟨trees⟩ catalogue Config.default Kind.all system
      (generate catalogue Config.default system).1
      (generate catalogue Config.default system).2 := by
  rw [generate_eq]
  refine emitAll_generated_of_avoidsDevices Kind.all fun kind _ location hl => ?_
  cases hl.symm.trans (locate_default system kind)
  exact hs _ (kind.isBelow_placeIn _)

namespace Generated

theorem onlyDocumentsDiffer
    (h : Generated templates catalogue Config.default Kind.all before after result) :
    OnlyDocumentsDiffer before after := by
  refine ⟨h.sameDirectories.current, fun place hp => h.get?_eq fun kind _ hl => ?_⟩
  cases hl.symm.trans (locate_default before kind)
  exact hp kind rfl

theorem holdsText_of_ok
    (h : Generated ⟨trees⟩ catalogue Config.default Kind.all before after result)
    {paths : List Path} (hr : result = .ok paths) (kind : Kind) :
    after.HoldsText (kind.placeIn before.current)
      (documentText kind catalogue Config.default) := by
  have hapart : before.Apart (Config.default.pathFor .toPointer)
      (Config.default.pathFor .fromPointer) := by
    intro location hto hfrom
    rw [locate_default] at hto hfrom
    cases Kind.placeIn_injective (Except.ok.inj (hto.trans hfrom.symm))
  have hreads : after.Reads (Config.default.pathFor kind)
      (bytes (render ⟨trees⟩ kind catalogue Config.default).output) := by
    cases kind with
    | toPointer => exact h.reads_of_ok hr [] rfl (by simpa using hapart)
    | fromPointer => exact h.reads_of_ok hr [.toPointer] rfl (by simp)
  obtain ⟨location, stored, hl, hg, hb⟩ := hreads
  rw [locate_default, h.sameDirectories.current] at hl
  cases hl
  rw [output_render] at hb
  exact ⟨stored, hg, hb⟩

theorem exists_ok_iff_default
    (h : Generated ⟨trees⟩ catalogue Config.default Kind.all before after result) :
    (∃ paths, result = .ok paths) ↔
      ∀ kind : Kind, before.get? (kind.placeIn before.current) ≠ some .directory := by
  have hk (kind : Kind) : before.Admits (Config.default.pathFor kind) ↔
      before.get? (kind.placeIn before.current) ≠ some .directory := by
    simp [FileSystem.Admits, locate_default]
  rw [h.exists_ok_iff]
  simp only [fault_render, and_true, hk, Kind.mem_all, true_implies]

end Generated

end Default

end PointerHelpers.Document
