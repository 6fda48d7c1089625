import Mathlib.Data.List.Pairwise
import PointerHelpers.Proofs.Catalogue.Acceptance

namespace PointerHelpers.Catalogue

open Text

inductive Defect where
  | emptyName
  | invalidName
  | duplicateName
  | collision
  | invalidLocator
  | emptyReference
  | invalidReference
  | conflict
  deriving DecidableEq

def CatalogueError.defect : CatalogueError → Defect
  | .emptyTypeName _ => .emptyName
  | .invalidTypeName _ => .invalidName
  | .duplicateTypeName _ => .duplicateName
  | .functionNameCollision _ _ _ => .collision
  | .invalidLocator _ _ => .invalidLocator
  | .emptyReferenceName _ _ => .emptyReference
  | .invalidReferenceName _ _ => .invalidReference
  | .referenceNameConflict _ _ _ => .conflict

namespace Defect

/-- The defects in the order in which they are looked for. -/
def all : List Defect :=
  [.emptyName, .invalidName, .duplicateName, .collision, .invalidLocator, .emptyReference,
    .invalidReference, .conflict]

def sooner (defect : Defect) : List Defect := all.takeWhile (· ≠ defect)

def Holds (earlier : List ScalarType) (type : ScalarType) : Defect → Prop
  | .emptyName => type.name = ""
  | .invalidName => isIdentifier type.name.toList = false
  | .duplicateName => ∃ owner ∈ earlier, owner.name = type.name
  | .collision => ∃ name ∈ type.functionNames, ∃ owner ∈ earlier, name ∈ owner.functionNames
  | .invalidLocator => ∃ reference ∈ type.reference, ∃ c ∈ reference.locator.toList,
    c = '"' ∨ c = '\\' ∨ isWhite c = true ∨ isControl c = true
  | .emptyReference => ∃ reference ∈ type.reference, reference.name = ""
  | .invalidReference => ∃ reference ∈ type.reference,
    reference.name = "_" ∨ isIdentifier reference.name.toList = false
  | .conflict => ∃ reference ∈ type.reference, ∃ other ∈ references earlier,
    other.name = reference.name ∧ other.locator ≠ reference.locator

end Defect

/-- The data of an error are those of the type and of what stands in its way among the earlier
ones. -/
def CatalogueError.TellsOf (earlier : List ScalarType) (type : ScalarType) : CatalogueError → Prop
  | .emptyTypeName index => index = earlier.length
  | .invalidTypeName typeName | .duplicateTypeName typeName => typeName = type.name
  | .functionNameCollision functionName first second =>
    second = type.name ∧ first ≠ second ∧
    (∃ sooner later, type.functionNames = sooner ++ functionName :: later ∧
      ∀ name ∈ sooner, ∀ other ∈ earlier, name ∉ other.functionNames) ∧
    (∃ owner ∈ earlier, functionName ∈ owner.functionNames) ∧
    ∀ owner ∈ earlier, functionName ∈ owner.functionNames → owner.name = first
  | .invalidLocator typeName locator | .emptyReferenceName typeName locator =>
    typeName = type.name ∧ ∃ reference ∈ type.reference, reference.locator = locator
  | .invalidReferenceName typeName referenceName =>
    typeName = type.name ∧ ∃ reference ∈ type.reference, reference.name = referenceName
  | .referenceNameConflict referenceName first second =>
    first ≠ second ∧
    (∃ reference ∈ type.reference, reference.name = referenceName ∧ reference.locator = second) ∧
    (∃ other ∈ references earlier, other.name = referenceName) ∧
    ∀ other ∈ references earlier, other.name = referenceName → other.locator = first

def Defect.error? (earlier : Registry) (type : ScalarType) : Defect → Option CatalogueError
  | .emptyName => if type.name = "" then some (.emptyTypeName earlier.size) else none
  | .invalidName =>
    if !isIdentifier type.name.toList then some (.invalidTypeName type.name) else none
  | .duplicateName =>
    if earlier.types.contains type.name then some (.duplicateTypeName type.name) else none
  | .collision => collision? earlier type
  | .invalidLocator => type.reference.bind fun reference =>
    if reference.locator.toList.any isForbiddenInLocator then
      some (.invalidLocator type.name reference.locator)
    else none
  | .emptyReference => type.reference.bind fun reference =>
    if reference.name = "" then some (.emptyReferenceName type.name reference.locator) else none
  | .invalidReference => type.reference.bind fun reference =>
    if reference.name = "_" || !isIdentifier reference.name.toList then
      some (.invalidReferenceName type.name reference.name)
    else none
  | .conflict => type.reference.bind (conflict? earlier)

theorem referenceFault?_eq_findSome? (earlier : Registry) (type : ScalarType) :
    type.reference.bind (referenceFault? earlier type) =
      [Defect.invalidLocator, .emptyReference, .invalidReference, .conflict].findSome?
        (Defect.error? earlier type) := by
  cases hr : type.reference with
  | none => simp [Defect.error?, hr]
  | some reference =>
    simp only [Option.bind_some, referenceFault?, List.findSome?_cons, Defect.error?, hr]
    split
    · rfl
    split
    · rfl
    split
    · rfl
    cases conflict? earlier reference <;> rfl

theorem fault?_eq_findSome? (earlier : Registry) (type : ScalarType) :
    fault? earlier type = Defect.all.findSome? (Defect.error? earlier type) := by
  have hall : Defect.all = [.emptyName, .invalidName, .duplicateName, .collision] ++
      [.invalidLocator, .emptyReference, .invalidReference, .conflict] := rfl
  rw [hall, List.findSome?_append, ← referenceFault?_eq_findSome?, fault?]
  simp only [List.findSome?_cons, Defect.error?]
  split
  · rfl
  split
  · rfl
  split
  · rfl
  cases collision? earlier type <;> rfl

variable {earlier : List ScalarType} {type : ScalarType} {error : CatalogueError}

theorem exists_of_findSome? {α β : Type} [DecidableEq α] {items : List α} {f : α → Option β}
    {found : β} (h : items.findSome? f = some found) :
    ∃ item ∈ items, f item = some found ∧ ∀ other ∈ items.takeWhile (· ≠ item), f other = none := by
  obtain ⟨before, item, later, rfl, hi, hb⟩ := List.findSome?_eq_some_iff.mp h
  have hn : ∀ other ∈ before, other ≠ item := by
    rintro other ho rfl
    cases hi.symm.trans (hb other ho)
  refine ⟨item, by simp, hi, ?_⟩
  rw [List.takeWhile_append_of_pos (by simpa using hn), List.takeWhile_cons]
  simpa using hb

theorem defect_of_error? {earlier : Registry} {defect : Defect}
    (h : defect.error? earlier type = some error) : error.defect = defect := by
  cases defect with
  | collision =>
    obtain ⟨functionName, -, hf⟩ := List.exists_of_findSome?_eq_some h
    obtain ⟨owner, -, rfl⟩ := Option.map_eq_some_iff.mp hf
    rfl
  | conflict =>
    obtain ⟨reference, -, hc⟩ := Option.bind_eq_some_iff.mp h
    rw [conflict?] at hc
    split at hc
    · cases hc
    · split at hc
      · cases hc
      · cases hc
        rfl
  | emptyName | invalidName | duplicateName =>
    rw [Defect.error?, Option.ite_none_right_eq_some] at h
    cases h.2
    rfl
  | invalidLocator | emptyReference | invalidReference =>
    obtain ⟨reference, -, hr⟩ := Option.bind_eq_some_iff.mp h
    rw [Option.ite_none_right_eq_some] at hr
    cases hr.2
    rfl

theorem error?_eq_none_iff (hc : Compatible earlier) (defect : Defect) :
    defect.error? (Registry.empty.addAll earlier) type = none ↔ ¬ defect.Holds earlier type := by
  cases defect with
  | emptyName => simp [Defect.error?, Defect.Holds]
  | invalidName => simp [Defect.error?, Defect.Holds]
  | duplicateName => simp [Defect.error?, Defect.Holds, ← types_addAll]
  | collision =>
    rw [Defect.error?, collision?_eq_none_iff, Defect.Holds]
    constructor
    · rintro h ⟨name, hm, owner, ho, hn⟩
      exact h name (List.mem_flatMap.mpr ⟨owner, ho, hn⟩) hm
    · intro h name hn hm
      obtain ⟨owner, ho, hn⟩ := List.mem_flatMap.mp hn
      exact h ⟨name, hm, owner, ho, hn⟩
  | invalidLocator => simp [Defect.error?, Defect.Holds, isForbiddenInLocator_eq_false_iff]
  | emptyReference => simp [Defect.error?, Defect.Holds]
  | invalidReference => simp [Defect.error?, Defect.Holds]
  | conflict =>
    simp [Defect.error?, Defect.Holds, conflict?_eq_none_iff hc]

def ScalarType.Apart (first second : ScalarType) : Prop :=
  List.Disjoint first.functionNames second.functionNames

instance : Std.Symm ScalarType.Apart := ⟨fun _ _ h => List.disjoint_symm h⟩

theorem Compatible.pairwise_apart (hc : Compatible earlier) : earlier.Pairwise ScalarType.Apart :=
  (List.nodup_flatMap.mp hc.functions).2

theorem owner_eq_of_mem (hc : Compatible earlier) {owner other : ScalarType} (ho : owner ∈ earlier)
    (hm : other ∈ earlier) {functionName : String} (hf : functionName ∈ owner.functionNames)
    (hg : functionName ∈ other.functionNames) : other = owner := by
  by_contra hne
  exact hc.pairwise_apart.forall hm ho hne hg hf

theorem tellsOf_of_collision? (hc : Compatible earlier)
    (hd : ¬ Defect.duplicateName.Holds earlier type)
    (h : collision? (Registry.empty.addAll earlier) type = some error) :
    error.TellsOf earlier type := by
  obtain ⟨sooner, functionName, later, hn, hf, hs⟩ := List.findSome?_eq_some_iff.mp h
  obtain ⟨first, hg, rfl⟩ := Option.map_eq_some_iff.mp hf
  rw [functions_addAll] at hg
  obtain ⟨owner, hfind, rfl⟩ := Option.map_eq_some_iff.mp hg
  have ho : owner ∈ earlier := List.mem_of_find?_eq_some hfind
  have hfo : functionName ∈ owner.functionNames := by simpa using List.find?_some hfind
  refine ⟨rfl, fun he => hd ⟨owner, ho, he⟩, ⟨sooner, later, hn, fun name hm other hother hp => ?_⟩,
    ⟨owner, ho, hfo⟩, fun other hm hp => ?_⟩
  · have hnone := hs name hm
    rw [Option.map_eq_none_iff, functions_addAll, Option.map_eq_none_iff,
      List.find?_eq_none] at hnone
    exact hnone other hother (List.contains_iff_mem.mpr hp)
  · rw [owner_eq_of_mem hc ho hm hfo hp]

theorem tellsOf_of_conflict? (hc : Compatible earlier) {reference : Reference}
    (hr : reference ∈ type.reference)
    (h : conflict? (Registry.empty.addAll earlier) reference = some error) :
    error.TellsOf earlier type := by
  rw [conflict?, packages_addAll] at h
  cases hfind : (references earlier).find? (·.name == reference.name) with
  | none => simp [hfind] at h
  | some first =>
    simp only [hfind, Option.map_some, Option.ite_none_left_eq_some, Option.some.injEq] at h
    obtain ⟨hl, rfl⟩ := h
    have hm : first ∈ references earlier := List.mem_of_find?_eq_some hfind
    have hn : first.name = reference.name := by simpa using List.find?_some hfind
    refine ⟨hl, ⟨reference, hr, rfl, rfl⟩, ⟨first, hm, hn⟩, fun other ho hon => ?_⟩
    exact hc.packages other ho first hm (hon.trans hn.symm)

theorem tellsOf_of_error? (hc : Compatible earlier) {defect : Defect}
    (hd : defect = .collision → ¬ Defect.duplicateName.Holds earlier type)
    (h : defect.error? (Registry.empty.addAll earlier) type = some error) :
    error.TellsOf earlier type := by
  cases defect with
  | emptyName =>
    rw [Defect.error?, Option.ite_none_right_eq_some, Registry.size_addAll] at h
    cases h.2
    exact Nat.zero_add _
  | invalidName | duplicateName =>
    rw [Defect.error?, Option.ite_none_right_eq_some] at h
    cases h.2
    rfl
  | collision => exact tellsOf_of_collision? hc (hd rfl) h
  | conflict =>
    obtain ⟨reference, hr, hconflict⟩ := Option.bind_eq_some_iff.mp h
    exact tellsOf_of_conflict? hc hr hconflict
  | invalidLocator | emptyReference | invalidReference =>
    obtain ⟨reference, hr, hf⟩ := Option.bind_eq_some_iff.mp h
    rw [Option.ite_none_right_eq_some] at hf
    cases hf.2
    exact ⟨rfl, reference, hr, rfl⟩

/-- Step: after compatible types, the error is about the first defect of the type. -/
theorem fault?_tells (hc : Compatible earlier)
    (h : fault? (Registry.empty.addAll earlier) type = some error) :
    error.defect.Holds earlier type ∧ error.TellsOf earlier type ∧
      ∀ other ∈ error.defect.sooner, ¬ other.Holds earlier type := by
  rw [fault?_eq_findSome?] at h
  obtain ⟨defect, -, hd, hs⟩ := exists_of_findSome? h
  rw [defect_of_error? hd]
  have hsooner : ∀ other ∈ defect.sooner, ¬ other.Holds earlier type :=
    fun other ho => (error?_eq_none_iff hc other).mp (hs other ho)
  refine ⟨?_, tellsOf_of_error? hc (fun he => ?_) hd, hsooner⟩
  · by_contra hn
    cases hd.symm.trans ((error?_eq_none_iff hc defect).mpr hn)
  · subst he
    exact hsooner .duplicateName (by decide)

theorem collision?_of_fault? {earlier : Registry} (h : fault? earlier type = some error)
    (hd : error.defect = .collision) : collision? earlier type = some error := by
  rw [fault?_eq_findSome?] at h
  obtain ⟨defect, -, hf, -⟩ := exists_of_findSome? h
  rw [← defect_of_error? hf, hd] at hf
  exact hf

/-- Run: the fault of a list is that of its first type that has one, whatever comes behind. -/
theorem firstFault?_eq_some_iff (registry : Registry) (types : List ScalarType)
    (error : CatalogueError) :
    firstFault? registry types = some error ↔
      ∃ earlier type later, types = earlier ++ type :: later ∧
        firstFault? registry earlier = none ∧
        fault? (registry.addAll earlier) type = some error := by
  induction types generalizing registry with
  | nil => simp [firstFault?]
  | cons first rest ih =>
    rw [firstFault?, Option.or_eq_some_iff, ih]
    constructor
    · rintro (hf | ⟨hn, earlier, type, later, rfl, he, hf⟩)
      · exact ⟨[], first, rest, rfl, rfl, hf⟩
      · refine ⟨first :: earlier, type, later, rfl, ?_, hf⟩
        rw [firstFault?, hn, he, Option.none_or]
    · rintro ⟨earlier, type, later, hs, he, hf⟩
      cases earlier with
      | nil =>
        cases hs
        exact .inl hf
      | cons known earlier =>
        cases hs
        rw [firstFault?, Option.or_eq_none_iff] at he
        exact .inr ⟨he.1, earlier, type, later, rfl, he.2, hf⟩

theorem ofTypes_eq_error_iff (types : List ScalarType) (error : CatalogueError) :
    ofTypes types = .error error ↔ firstFault? .empty types = some error := by
  rw [ofTypes]
  split <;> simp [*]

/-- The error of a list that is no catalogue is about the first type up to which the list is none,
whatever comes behind it. It is about the first defect of that type and tells what it is. A name
that is taken is one of an earlier type, even if the names of the type are entered as they are
compared. -/
theorem ofTypes_blames {types : List ScalarType} {error : CatalogueError}
    (h : ofTypes types = .error error) :
    ∃ index type, types[index]? = some type ∧
      (∀ length, (∃ catalogue, ofTypes (types.take length) = .ok catalogue) ↔ length ≤ index) ∧
      (∀ continuation, ofTypes (types.take (index + 1) ++ continuation) = .error error) ∧
      error.defect.Holds (types.take index) type ∧
      error.TellsOf (types.take index) type ∧
      (∀ other ∈ error.defect.sooner, ¬ other.Holds (types.take index) type) ∧
      (error.defect = .collision →
        enterAll type.name (Registry.empty.addAll (types.take index)).functions
          type.functionNames = .error error) := by
  obtain ⟨earlier, type, later, rfl, hn, hf⟩ :=
    (firstFault?_eq_some_iff _ _ _).mp ((ofTypes_eq_error_iff _ _).mp h)
  have hc : Compatible earlier := (firstFault?_eq_none_iff Compatible.nil earlier).mp hn
  have hblame (continuation : List ScalarType) :
      ofTypes (earlier ++ type :: continuation) = .error error := by
    rw [ofTypes_eq_error_iff, firstFault?_eq_some_iff]
    exact ⟨earlier, type, continuation, rfl, hn, hf⟩
  obtain ⟨hholds, htells, hsooner⟩ := fault?_tells hc hf
  have htake : (earlier ++ type :: later).take earlier.length = earlier := List.take_left
  have hnext (more : Nat) : (earlier ++ type :: later).take (earlier.length + (more + 1)) =
      earlier ++ type :: later.take more := by
    rw [List.take_length_add_append, List.take_succ_cons]
  refine ⟨earlier.length, type, by simp, fun length => ?_, fun continuation => ?_, ?_⟩
  · by_cases hl : length ≤ earlier.length
    · refine iff_of_true ((exists_ofTypes_iff _).mpr ?_) hl
      rw [List.take_append_of_le_length hl]
      apply Compatible.of_append
      rwa [List.take_append_drop]
    · -- Once the type is among the first ones, the error is theirs.
      refine iff_of_false ?_ hl
      rintro ⟨catalogue, hok⟩
      obtain ⟨more, rfl⟩ := Nat.exists_eq_add_of_lt (Nat.lt_of_not_le hl)
      rw [Nat.add_assoc, hnext] at hok
      cases hok.symm.trans (hblame _)
  · rw [hnext 0, List.append_assoc]
    exact hblame continuation
  · rw [htake]
    exact ⟨hholds, htells, hsooner, fun hd =>
      (enterAll_eq_error_iff _ type error).mpr (collision?_of_fault? hf hd)⟩

theorem ofTypes_blames_third :
    let third : ScalarType := ⟨"toInt", some ⟨"b c", some "_"⟩⟩
    let earlier : List ScalarType := [.builtin "string", .builtin "int"]
    let types := earlier ++ [third, .builtin ""]
    let error := CatalogueError.functionNameCollision "ToInt" "int" "toInt"
    ofTypes types = .error error ∧
    Defect.invalidLocator.Holds earlier third ∧ Defect.invalidReference.Holds earlier third ∧
    error.TellsOf earlier third ∧
    (∀ other ∈ error.defect.sooner, ¬ other.Holds earlier third) ∧
    ∀ continuation, ofTypes (earlier ++ third :: continuation) = .error error := by
  intro third earlier types error
  have h : ofTypes types = .error error := by
    rw [ofTypes_eq_error_iff]
    decide
  have hearlier : ∃ catalogue, ofTypes (types.take 2) = .ok catalogue :=
    ⟨⟨earlier, by decide⟩, by rfl⟩
  have hnext : ¬ ∃ catalogue, ofTypes (types.take 3) = .ok catalogue := by
    rintro ⟨catalogue, hok⟩
    have he : ofTypes (types.take 3) = .error error := by
      rw [ofTypes_eq_error_iff]
      decide
    cases hok.symm.trans he
  obtain ⟨index, type, ht, hl, hsame, -, htells, hsooner, -⟩ := ofTypes_blames h
  obtain rfl : index = 2 := by
    have hle := (hl 2).mp hearlier
    have hlt := mt (hl 3).mpr hnext
    omega
  cases ht
  refine ⟨h, ⟨_, rfl, ' ', by decide, ?_⟩, ⟨_, rfl, .inl rfl⟩, htells, hsooner, hsame⟩
  exact .inr (.inr (.inl (by decide)))

end PointerHelpers.Catalogue
