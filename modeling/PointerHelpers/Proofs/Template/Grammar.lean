import Mathlib.Data.List.Basic
import PointerHelpers.Proofs.Template.Occurrence

namespace PointerHelpers.Template

open Text

inductive Says (content : List Char) : Tag → Prop
  | value (name : isIdentifier (trim content) = true) : Says content (.value (.ofList (trim content)))
  | inclusion {rest : List Char} (mark : trim content = '>' :: rest) (name : trim rest ≠ []) :
      Says content (.inclusion (.ofList (trim rest)))
  | opening {kind : Block} {white : Char} {rest : List Char}
      (mark : trim content = '#' :: (kind.keyword.toList ++ white :: rest))
      (space : isWhite white = true) (name : isIdentifier (trim rest) = true) :
      Says content (.opening kind (.ofList (trim rest)))
  | closing {rest : List Char} (mark : trim content = '/' :: rest) :
      Says content (.closing (.ofList (trim rest)))

theorem not_isIdentifier_cons {c : Char} (h : isNameStart c = false) (cs : List Char) :
    isIdentifier (c :: cs) = false := by
  rw [isIdentifier, h, Bool.false_and]

theorem trim_cons_of_isWhite {c : Char} (h : isWhite c = true) (cs : List Char) :
    trim (c :: cs) = trim cs := by
  rw [trim, List.dropWhile_cons_of_pos h, ← trim]

theorem trim_append_of_isWhite {c : Char} (h : isWhite c = true) (cs : List Char) :
    trim (cs ++ [c]) = trim cs := by
  rw [trim, List.dropWhile_append, trim]
  split
  · rename_i he
    rw [List.isEmpty_iff.mp he, List.dropWhile_cons_of_pos h, List.dropWhile_nil]
  · rw [trimEnd, List.reverse_append, List.reverse_singleton, List.singleton_append,
      List.dropWhile_cons_of_pos h, ← trimEnd]

namespace Block

theorem ofKeyword?_eq_some_iff (keyword : List Char) (kind : Block) :
    ofKeyword? keyword = some kind ↔ keyword = kind.keyword.toList := by
  constructor
  · intro h
    unfold ofKeyword? at h
    split at h <;> cases h <;> rfl
  · rintro rfl
    cases kind <;> rfl

theorem keyword_not_isWhite (kind : Block) : ∀ c ∈ kind.keyword.toList, (!isWhite c) = true := by
  rw [← List.all_eq_true]
  cases kind <;> decide

end Block

namespace Tag

/-- The keyword of a block goes up to the first white space, which has to be there for a name to
follow. -/
theorem readOpening_eq_ok_iff (cs : List Char) (tag : Tag) :
    readOpening cs = .ok tag ↔ ∃ kind : Block, ∃ white rest,
      cs = kind.keyword.toList ++ white :: rest ∧ isWhite white = true ∧
      isIdentifier (trim rest) = true ∧ tag = .opening kind (.ofList (trim rest)) := by
  constructor
  · intro h
    simp only [readOpening] at h
    split at h
    · cases h
    rename_i kind hk
    rw [Block.ofKeyword?_eq_some_iff] at hk
    split at h
    · rename_i hn
      cases h
      cases hd : cs.dropWhile (!isWhite ·) with
      | nil => simp [hd, trim, trimEnd, isIdentifier] at hn
      | cons white rest =>
        have hw : isWhite white = true := by
          have := List.head?_dropWhile_not (!isWhite ·) cs
          simpa [hd] using this
        rw [hd, trim_cons_of_isWhite hw] at hn
        refine ⟨kind, white, rest, ?_, hw, hn, by rw [trim_cons_of_isWhite hw]⟩
        rw [← hk, ← hd, List.takeWhile_append_dropWhile]
    · cases h
  · rintro ⟨kind, white, rest, rfl, hw, hn, rfl⟩
    have ht : (kind.keyword.toList ++ white :: rest).takeWhile (!isWhite ·) =
        kind.keyword.toList := by
      rw [List.takeWhile_append_of_pos kind.keyword_not_isWhite]
      simp [hw]
    have hd : (kind.keyword.toList ++ white :: rest).dropWhile (!isWhite ·) = white :: rest := by
      rw [List.dropWhile_append_of_pos kind.keyword_not_isWhite]
      simp [hw]
    have hk : Block.ofKeyword? kind.keyword.toList = some kind :=
      (Block.ofKeyword?_eq_some_iff _ _).mpr rfl
    simp only [readOpening, ht, hd, hk, trim_cons_of_isWhite hw, hn, if_true]

theorem read_eq_ok_iff (content : List Char) (tag : Tag) :
    read content = .ok tag ↔ Says content tag := by
  constructor
  · intro h
    unfold read at h
    split at h
    · cases h
    · rename_i rest hm
      simp only [readInclusion] at h
      split at h
      · cases h
      · cases h
        exact .inclusion hm ‹_›
    · rename_i rest hm
      obtain ⟨kind, white, rest, rfl, hw, hn, rfl⟩ := (readOpening_eq_ok_iff _ _).mp h
      exact .opening hm hw hn
    · rename_i rest hm
      cases h
      exact .closing hm
    · split at h
      · cases h
        exact .value ‹_›
      · cases h
  · intro h
    cases h with
    | value hn =>
      unfold read
      split
      · simp_all [isIdentifier]
      · simp_all [not_isIdentifier_cons (show isNameStart '>' = false by decide)]
      · simp_all [not_isIdentifier_cons (show isNameStart '#' = false by decide)]
      · simp_all [not_isIdentifier_cons (show isNameStart '/' = false by decide)]
      · rw [if_pos hn]
    | inclusion hm hn =>
      simp only [read, hm, readInclusion]
    | opening hm hw hn =>
      simp only [read, hm]
      exact (readOpening_eq_ok_iff _ _).mpr ⟨_, _, _, rfl, hw, hn, rfl⟩
    | closing hm => simp only [read, hm]

end Tag

def Occurrence.Is (found : Occurrence) (tag : Tag) : Prop :=
  found.closed = true ∧ Says found.content tag

/-- Tags in which every block that is opened is closed again by its own keyword, the blocks beside or
inside one another. -/
inductive Nested : List Occurrence → Prop
  | nil : Nested []
  | value {found : Occurrence} {name : String} {rest : List Occurrence}
      (leaf : found.Is (.value name)) (next : Nested rest) : Nested (found :: rest)
  | inclusion {found : Occurrence} {template : String} {rest : List Occurrence}
      (leaf : found.Is (.inclusion template)) (next : Nested rest) : Nested (found :: rest)
  | block {opened closed : Occurrence} {kind : Block} {name : String} {body rest : List Occurrence}
      (opens : opened.Is (.opening kind name)) (inside : Nested body)
      (closes : closed.Is (.closing kind.keyword)) (next : Nested rest) :
      Nested (opened :: body ++ closed :: rest)

/-- The innermost block that is open after some tags: only closed blocks follow its opening tag. -/
def InnermostOpen (earlier : List Occurrence) (opened : Occurrence) (kind : Block) : Prop :=
  ∃ outer inner name,
    earlier = outer ++ opened :: inner ∧ opened.Is (.opening kind name) ∧ Nested inner

inductive Offends (earlier : List Occurrence) (found : Occurrence) : Prop
  | unterminated (unclosed : found.closed = false)
  | malformed (silent : ∀ tag, ¬ Says found.content tag)
  | unmatched {keyword : String} (closes : found.Is (.closing keyword))
      (other : ∀ opened kind, InnermostOpen earlier opened kind → kind.keyword ≠ keyword)

/-- The tag to blame for a text that is no template: the leftmost one that offends, or else the one
that opens the innermost of the blocks that stay open. -/
inductive Blamed (tags : List Occurrence) : Span → Prop
  | offender {earlier later : List Occurrence} {found : Occurrence}
      (place : tags = earlier ++ found :: later)
      (first : ∀ before tag after, earlier = before ++ tag :: after → ¬ Offends before tag)
      (offends : Offends earlier found) : Blamed tags found.span
  | unclosed {opened : Occurrence} {kind : Block}
      (none : ∀ before tag after, tags = before ++ tag :: after → ¬ Offends before tag)
      (innermost : InnermostOpen tags opened kind) : Blamed tags opened.span

namespace Occurrence

def tag? (found : Occurrence) : Option Tag :=
  if found.closed then (Tag.read found.content).toOption else none

theorem tag?_eq_some_iff (found : Occurrence) (tag : Tag) : found.tag? = some tag ↔ found.Is tag := by
  rw [Is, ← Tag.read_eq_ok_iff, tag?]
  cases found.closed <;> cases Tag.read found.content <;> simp [Except.toOption]

end Occurrence

end PointerHelpers.Template
