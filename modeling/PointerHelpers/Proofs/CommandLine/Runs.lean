import PointerHelpers.CommandLine.Basic
import PointerHelpers.Proofs.CommandLine.Requests
import PointerHelpers.Proofs.Document.CurrentDirectory

namespace PointerHelpers.CommandLine

open Catalogue Document Files Template

variable {arguments : List String} {system : FileSystem}

/-- The mistakes of templates are found before the first document, so that their report is never
seen once documents are written. -/
theorem failureText_of_generated {templates : TemplateSet} {catalogue : Catalogue}
    {config : Config} {kinds : List Kind} {before after : FileSystem}
    {result : Except GenerationError (List Path)} {error : GenerationError}
    (h : Generated templates catalogue config kinds before after result)
    (hr : result = .error error) : failureText error = "error: " ++ error.message ++ "\n" := by
  induction h with
  | done => cases hr
  | stopped first =>
    cases hr
    cases first <;> rfl
  | followed _ _ ih => exact ih (map_eq_error hr)

theorem run_of_ne_generate (h : Request.ofArguments arguments ≠ .generate) (system : FileSystem) :
    (run arguments system).1 = system ∧
      ((∃ flag : Flag, flag.IsAskedFirst arguments ∧
          (run arguments system).2 = ⟨0, flag.answer, ""⟩) ∨
        (∀ flag : Flag, ¬ flag.IsAskedFirst arguments) ∧
          ∃ message, (run arguments system).2 = ⟨2, "", message⟩) := by
  have ha (flag : Flag) := Request.ofArguments_eq_answer_iff arguments flag
  rw [run]
  cases hr : Request.ofArguments arguments with
  | generate => exact absurd hr h
  | answer flag => exact ⟨rfl, .inl ⟨flag, (ha flag).mp hr, rfl⟩⟩
  | unexpected _ _ | unexpectedValue _ _ =>
    refine ⟨rfl, .inr ⟨fun flag hf => ?_, _, rfl⟩⟩
    cases hr.symm.trans ((ha flag).mpr hf)

theorem generateStandard_eq {after : FileSystem} {result : Except GenerationError (List Path)}
    (h : generate Catalogue.standard Config.default system = (after, result)) :
    generateStandard system = (after, .ofGeneration result) := by
  rw [generateStandard, h]

theorem run_of_generate (h : Request.ofArguments arguments = .generate)
    (hs : system.IsRegularBelow system.current) :
    Generated ⟨trees⟩ Catalogue.standard Config.default Kind.all system (run arguments system).1
      (generate Catalogue.standard Config.default system).2 ∧
    ((∃ paths, (generate Catalogue.standard Config.default system).2 = .ok paths ∧
        (run arguments system).2 = ⟨0, "", ""⟩) ∨
      ∃ error, (generate Catalogue.standard Config.default system).2 = .error error ∧
        (run arguments system).2 = ⟨1, "", "error: " ++ error.message ++ "\n"⟩) := by
  have hg := generate_generated Catalogue.standard hs
  -- The pair is named, as terms that hold the generation are compared by running it.
  rcases he : generate Catalogue.standard Config.default system with ⟨after, result⟩
  have hrun : run arguments system = (after, .ofGeneration result) := by
    rw [run, h]
    exact generateStandard_eq he
  rw [he] at hg
  rw [hrun]
  refine ⟨hg, ?_⟩
  cases result with
  | ok paths => exact .inl ⟨paths, rfl, rfl⟩
  | error error =>
    rw [Outcome.ofGeneration, failureText_of_generated hg rfl]
    exact .inr ⟨error, rfl, rfl⟩

/-- A run writes files only for no arguments and a lone `--`. Then it succeeds exactly if the
generation does, and leaves both documents in the current directory; otherwise it reports the error.
Nothing but the files of the documents ever changes. -/
theorem run_effects (arguments : List String) {system : FileSystem}
    (hs : system.IsRegularBelow system.current) :
    let after := (run arguments system).1
    let outcome := (run arguments system).2
    let result := (generate Catalogue.standard Config.default system).2
    (arguments ≠ [] → arguments ≠ ["--"] →
      after = system ∧
      ((∃ flag : Flag, flag.IsAskedFirst arguments ∧ outcome = ⟨0, flag.answer, ""⟩) ∨
        (∀ flag : Flag, ¬ flag.IsAskedFirst arguments) ∧
          ∃ message, outcome = ⟨2, "", message⟩)) ∧
    (arguments = [] ∨ arguments = ["--"] →
      (outcome.code = 0 ↔ ∃ paths, result = .ok paths) ∧
      (outcome.code = 0 ↔
        ∀ kind : Kind, system.get? (kind.placeIn system.current) ≠ some .directory) ∧
      (outcome.code = 0 → ∀ kind : Kind, after.HoldsText (kind.placeIn system.current)
        (documentText kind Catalogue.standard Config.default)) ∧
      (outcome.code ≠ 0 → ∃ error, result = .error error ∧
        outcome = ⟨1, "", "error: " ++ error.message ++ "\n"⟩) ∧
      OnlyDocumentsDiffer system after) := by
  intro after outcome result
  constructor
  · intro hempty hseparator
    have hr : Request.ofArguments arguments ≠ .generate := by
      rw [ne_eq, Request.ofArguments_eq_generate_iff]
      simp [hempty, hseparator]
    exact run_of_ne_generate hr system
  · intro hr
    rw [← Request.ofArguments_eq_generate_iff] at hr
    obtain ⟨hg, ⟨paths, hp, ho⟩ | ⟨error, he, ho⟩⟩ := run_of_generate hr hs
    · have hok : ∃ paths, result = .ok paths := ⟨paths, hp⟩
      have hcode : outcome.code = 0 := congrArg Outcome.code ho
      exact ⟨iff_of_true hcode hok, iff_of_true hcode (hg.exists_ok_iff_default.mp hok),
        fun _ kind => hg.holdsText_of_ok hp kind, fun hc => absurd hcode hc,
        hg.onlyDocumentsDiffer⟩
    · have hfailed : ¬ ∃ paths, result = .ok paths := by
        rintro ⟨paths, hp⟩
        cases he.symm.trans hp
      have hcode : outcome.code ≠ 0 := (congrArg Outcome.code ho).trans_ne Nat.one_ne_zero
      have hblocked := mt hg.exists_ok_iff_default.mpr hfailed
      exact ⟨iff_of_false hcode hfailed, iff_of_false hcode hblocked, fun hc => absurd hc hcode,
        fun _ => ⟨error, he, ho⟩, hg.onlyDocumentsDiffer⟩

theorem run_effects_fresh :
    let fresh := FileSystem.fresh
    let blocked := fresh.put ["tmp", "work", "from_ptr.go"] .directory
    fresh.IsRegularBelow fresh.current ∧ blocked.IsRegularBelow blocked.current ∧
    (run ["--"] fresh).2.code = 0 ∧
    (∀ kind : Kind, (run ["--"] fresh).1.HoldsText ["tmp", "work", kind.defaultFileName]
      (documentText kind Catalogue.standard Config.default)) ∧
    ∃ error : GenerationError,
      (run ["--"] blocked).2 = ⟨1, "", "error: " ++ error.message ++ "\n"⟩ := by
  intro fresh blocked
  have hf : fresh.IsRegularBelow fresh.current := by
    apply FileSystem.isRegularBelow_of_entries
    simp [fresh, FileSystem.fresh, FileSystem.isBelow]
  have hb : blocked.IsRegularBelow blocked.current := by
    apply FileSystem.isRegularBelow_of_entries
    simp [blocked, fresh, FileSystem.fresh, FileSystem.put, FileSystem.replace, FileSystem.isBelow]
  obtain ⟨-, hwrites⟩ := run_effects ["--"] hf
  obtain ⟨-, hcode, htext, -, -⟩ := hwrites (.inr rfl)
  have hfree : (run ["--"] fresh).2.code = 0 := hcode.mpr fun kind => by
    cases kind <;> decide
  obtain ⟨-, hwrites⟩ := run_effects ["--"] hb
  obtain ⟨-, hcode, -, herror, -⟩ := hwrites (.inr rfl)
  have hstopped : (run ["--"] blocked).2.code ≠ 0 := fun hc =>
    hcode.mp hc .fromPointer (by decide)
  obtain ⟨error, -, ho⟩ := herror hstopped
  exact ⟨hf, hb, hfree, htext hfree, error, ho⟩

end PointerHelpers.CommandLine
