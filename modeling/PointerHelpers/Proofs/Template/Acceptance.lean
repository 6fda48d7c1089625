import Mathlib.Data.List.Induction
import PointerHelpers.Proofs.Template.Grammar
import PointerHelpers.Proofs.Template.Lines
import PointerHelpers.Template.Parser

namespace PointerHelpers.Template

/-- The blocks that are open after a tag with the places of their opening tags, innermost first, for
those that are open before it. -/
def Tag.step (span : Span) (stack : List (Block × Span)) : Tag → Option (List (Block × Span))
  | .value _ | .inclusion _ => some stack
  | .opening kind _ => some ((kind, span) :: stack)
  | .closing keyword =>
    match stack with
    | [] => none
    | (kind, _) :: stack => if kind.keyword = keyword then some stack else none

def Occurrence.step (found : Occurrence) (stack : List (Block × Span)) :
    Option (List (Block × Span)) :=
  found.tag?.bind (Tag.step found.span stack)

def openAfter (stack : List (Block × Span)) : List Occurrence → Option (List (Block × Span))
  | [] => some stack
  | found :: rest => (found.step stack).bind fun stack => openAfter stack rest

theorem openAfter_append (stack : List (Block × Span)) (tags rest : List Occurrence) :
    openAfter stack (tags ++ rest) = (openAfter stack tags).bind fun stack => openAfter stack rest := by
  induction tags generalizing stack with
  | nil => rfl
  | cons found tags ih =>
    rw [List.cons_append, openAfter, openAfter, Option.bind_assoc]
    congr 1
    funext stack
    exact ih stack

theorem Occurrence.step_of_is {found : Occurrence} {tag : Tag} (h : found.Is tag)
    (stack : List (Block × Span)) : found.step stack = tag.step found.span stack := by
  rw [step, (tag?_eq_some_iff found tag).mpr h, Option.bind_some]

namespace Nested

theorem append {tags rest : List Occurrence} (h : Nested tags) (hr : Nested rest) :
    Nested (tags ++ rest) := by
  induction h with
  | nil => exact hr
  | value leaf _ ih => exact .value leaf ih
  | inclusion leaf _ ih => exact .inclusion leaf ih
  | block opens inside closes _ _ ih =>
    rw [List.append_assoc]
    exact .block opens inside closes ih

theorem openAfter_eq {tags : List Occurrence} (h : Nested tags) (stack : List (Block × Span)) :
    openAfter stack tags = some stack := by
  induction h generalizing stack with
  | nil => rfl
  | value leaf _ ih | inclusion leaf _ ih =>
    rw [openAfter, Occurrence.step_of_is leaf, Tag.step, Option.bind_some, ih]
  | block opens _ closes _ ihb ihr =>
    rw [List.cons_append, openAfter, Occurrence.step_of_is opens, Tag.step, Option.bind_some,
      openAfter_append, ihb, Option.bind_some, openAfter, Occurrence.step_of_is closes]
    simp only [Tag.step, if_true, Option.bind_some, ihr]

end Nested

/-- The open blocks after some tags, read off the way the tags stand inside one another. -/
inductive Opens : List Occurrence → List (Block × Span) → Prop
  | closed {inner : List Occurrence} (nested : Nested inner) : Opens inner []
  | opened {outer inner : List Occurrence} {found : Occurrence} {kind : Block} {name : String}
      {stack : List (Block × Span)} (before : Opens outer stack)
      (opens : found.Is (.opening kind name)) (nested : Nested inner) :
      Opens (outer ++ found :: inner) ((kind, found.span) :: stack)

namespace Opens

theorem append {tags rest : List Occurrence} {stack : List (Block × Span)} (h : Opens tags stack)
    (hr : Nested rest) : Opens (tags ++ rest) stack := by
  cases h with
  | closed nested => exact .closed (nested.append hr)
  | opened before opens nested =>
    rw [List.append_assoc, List.cons_append]
    exact .opened before opens (nested.append hr)

theorem close {tags : List Occurrence} {found : Occurrence} {kind : Block} {span : Span}
    {stack : List (Block × Span)} (h : Opens tags ((kind, span) :: stack))
    (hc : found.Is (.closing kind.keyword)) : Opens (tags ++ [found]) stack := by
  cases h with
  | opened before opens nested =>
    rw [List.append_assoc]
    exact before.append (.block opens nested hc .nil)

theorem step {tags : List Occurrence} {found : Occurrence} {stack next : List (Block × Span)}
    (h : Opens tags stack) (hs : found.step stack = some next) : Opens (tags ++ [found]) next := by
  obtain ⟨tag, ht, hs⟩ := Option.bind_eq_some_iff.mp hs
  rw [Occurrence.tag?_eq_some_iff] at ht
  cases tag with
  | value name =>
    cases hs
    exact h.append (.value ht .nil)
  | inclusion template =>
    cases hs
    exact h.append (.inclusion ht .nil)
  | opening kind name =>
    cases hs
    exact .opened h ht .nil
  | closing keyword =>
    cases stack with
    | nil => cases hs
    | cons top stack =>
      simp only [Tag.step] at hs
      split at hs
      · rename_i hk
        cases hs
        exact h.close (hk ▸ ht)
      · cases hs

end Opens

theorem opens_of_openAfter {tags : List Occurrence} {stack : List (Block × Span)}
    (h : openAfter [] tags = some stack) : Opens tags stack := by
  induction tags using List.reverseRecOn generalizing stack with
  | nil =>
    cases h
    exact .closed .nil
  | append_singleton tags found ih =>
    rw [openAfter_append, Option.bind_eq_some_iff] at h
    obtain ⟨before, hb, hs⟩ := h
    rw [openAfter, Option.bind_eq_some_iff] at hs
    obtain ⟨next, hs, he⟩ := hs
    cases he
    exact (ih hb).step hs

theorem nested_iff (tags : List Occurrence) : Nested tags ↔ openAfter [] tags = some [] := by
  constructor
  · exact fun h => h.openAfter_eq []
  · intro h
    cases opens_of_openAfter h with
    | closed nested => exact nested

theorem innermostOpen_iff {tags : List Occurrence} {stack : List (Block × Span)}
    (h : openAfter [] tags = some stack) (kind : Block) (span : Span) :
    (∃ opened, InnermostOpen tags opened kind ∧ opened.span = span) ↔
      stack.head? = some (kind, span) := by
  constructor
  · rintro ⟨opened, ⟨outer, inner, name, rfl, ho, hi⟩, rfl⟩
    rw [openAfter_append, Option.bind_eq_some_iff] at h
    obtain ⟨before, -, h⟩ := h
    rw [openAfter, Occurrence.step_of_is ho, Tag.step, Option.bind_some, hi.openAfter_eq] at h
    cases h
    rfl
  · intro hs
    cases opens_of_openAfter h with
    | closed => cases hs
    | opened before opens nested =>
      cases hs
      exact ⟨_, ⟨_, _, _, rfl, opens, nested⟩, rfl⟩

/-- A tag offends exactly when it has no step from the blocks that are open before it. -/
theorem offends_iff {earlier : List Occurrence} {stack : List (Block × Span)}
    (h : openAfter [] earlier = some stack) (found : Occurrence) :
    Offends earlier found ↔ found.step stack = none := by
  constructor
  · intro ho
    cases ho with
    | unterminated hc => simp [Occurrence.step, Occurrence.tag?, hc]
    | malformed hs =>
      have ht : found.tag? = none := by
        rw [Option.eq_none_iff_forall_ne_some]
        exact fun tag ht => hs tag ((Occurrence.tag?_eq_some_iff found tag).mp ht).2
      rw [Occurrence.step, ht, Option.bind_none]
    | unmatched hc ho =>
      rw [Occurrence.step_of_is hc]
      cases stack with
      | nil => rfl
      | cons top stack =>
        obtain ⟨opened, hi, -⟩ := (innermostOpen_iff h top.1 top.2).mpr rfl
        simp only [Tag.step, if_neg (ho opened top.1 hi)]
  · intro hs
    cases ht : found.tag? with
    | none =>
      by_cases hc : found.closed = true
      · refine .malformed fun tag hsays => ?_
        rw [(Occurrence.tag?_eq_some_iff found tag).mpr ⟨hc, hsays⟩] at ht
        cases ht
      · exact .unterminated (Bool.eq_false_iff.mpr hc)
    | some tag =>
      rw [Occurrence.tag?_eq_some_iff] at ht
      rw [Occurrence.step_of_is ht] at hs
      cases tag with
      | value | inclusion | opening => cases hs
      | closing keyword =>
        refine .unmatched ht fun opened kind hi hk => ?_
        have htop := (innermostOpen_iff h kind opened.span).mp ⟨opened, hi, rfl⟩
        cases stack with
        | nil => cases htop
        | cons top stack =>
          cases htop
          simp [Tag.step, hk] at hs

theorem openAfter_concat (stack : List (Block × Span)) (tags : List Occurrence)
    (found : Occurrence) :
    openAfter stack (tags ++ [found]) = (openAfter stack tags).bind found.step := by
  rw [openAfter_append]
  congr 1
  funext next
  rw [openAfter]
  cases found.step next <;> rfl

theorem not_offends_iff (tags : List Occurrence) :
    (∀ before tag after, tags = before ++ tag :: after → ¬ Offends before tag) ↔
      ∃ stack, openAfter [] tags = some stack := by
  constructor
  · intro h
    induction tags using List.reverseRecOn with
    | nil => exact ⟨[], rfl⟩
    | append_singleton tags found ih =>
      obtain ⟨stack, hs⟩ := ih fun before tag after he =>
        h before tag (after ++ [found]) (by rw [he]; simp)
      have hf := h tags found [] rfl
      rw [offends_iff hs, ← ne_eq, Option.ne_none_iff_exists'] at hf
      rwa [openAfter_concat, hs, Option.bind_some]
  · rintro ⟨stack, hs⟩ before tag after rfl ho
    rw [openAfter_append, Option.bind_eq_some_iff] at hs
    obtain ⟨next, hb, hs⟩ := hs
    rw [openAfter, (offends_iff hb tag).mp ho] at hs
    cases hs

def verdict (stack : List (Block × Span)) : List Occurrence → Except Span Unit
  | [] =>
    match stack with
    | [] => .ok ()
    | (_, span) :: _ => .error span
  | found :: rest =>
    match found.step stack with
    | none => .error found.span
    | some stack => verdict stack rest

theorem verdict_eq_ok_iff (stack : List (Block × Span)) (tags : List Occurrence) :
    verdict stack tags = .ok () ↔ openAfter stack tags = some [] := by
  induction tags generalizing stack with
  | nil => cases stack <;> simp [verdict, openAfter]
  | cons found rest ih =>
    rw [verdict, openAfter]
    cases found.step stack with
    | none => simp
    | some next => exact ih next

theorem verdict_eq_error_iff (stack : List (Block × Span)) (tags : List Occurrence) (span : Span) :
    verdict stack tags = .error span ↔
      (∃ earlier found later next, tags = earlier ++ found :: later ∧
        openAfter stack earlier = some next ∧ found.step next = none ∧ found.span = span) ∨
      ∃ next, openAfter stack tags = some next ∧ ∃ kind, next.head? = some (kind, span) := by
  induction tags generalizing stack with
  | nil =>
    cases stack with
    | nil => simp [verdict, openAfter]
    | cons top stack =>
      obtain ⟨kind, place⟩ := top
      simp [verdict, openAfter]
  | cons found rest ih =>
    rw [verdict, openAfter]
    cases hs : found.step stack with
    | none =>
      constructor
      · intro h
        cases h
        exact .inl ⟨[], found, rest, stack, rfl, rfl, hs, rfl⟩
      · rintro (⟨earlier, tag, later, next, he, ho, hn, rfl⟩ | ⟨next, hn, -⟩)
        · cases earlier with
          | nil =>
            cases he
            rfl
          | cons other earlier =>
            cases he
            rw [openAfter, hs] at ho
            cases ho
        · cases hn
    | some next =>
      simp only [Option.bind_some]
      rw [ih next]
      refine or_congr_left ⟨?_, ?_⟩
      · rintro ⟨earlier, tag, later, last, rfl, ho, hn, rfl⟩
        refine ⟨found :: earlier, tag, later, last, rfl, ?_, hn, rfl⟩
        rw [openAfter, hs, Option.bind_some, ho]
      · rintro ⟨earlier, tag, later, last, he, ho, hn, rfl⟩
        cases earlier with
        | nil =>
          cases he
          cases ho
          rw [hs] at hn
          cases hn
        | cons other earlier =>
          cases he
          rw [openAfter, hs, Option.bind_some] at ho
          exact ⟨earlier, tag, later, last, rfl, ho, hn, rfl⟩

theorem verdict_accepts_iff (tags : List Occurrence) : verdict [] tags = .ok () ↔ Nested tags := by
  rw [verdict_eq_ok_iff, nested_iff]

theorem verdict_blames_iff (tags : List Occurrence) (span : Span) :
    verdict [] tags = .error span ↔ Blamed tags span := by
  rw [verdict_eq_error_iff]
  constructor
  · rintro (⟨earlier, found, later, next, he, ho, hn, rfl⟩ | ⟨next, ho, kind, hk⟩)
    · exact .offender he ((not_offends_iff earlier).mpr ⟨next, ho⟩) ((offends_iff ho found).mpr hn)
    -- No tag is left that has no step, so that the top of the stack is to blame.
    · obtain ⟨opened, hi, rfl⟩ := (innermostOpen_iff ho kind span).mpr hk
      exact .unclosed ((not_offends_iff tags).mpr ⟨next, ho⟩) hi
  · intro h
    cases h with
    | offender place first offends =>
      obtain ⟨next, ho⟩ := (not_offends_iff _).mp first
      exact .inl ⟨_, _, _, next, place, ho, (offends_iff ho _).mp offends, rfl⟩
    | unclosed none innermost =>
      obtain ⟨next, ho⟩ := (not_offends_iff _).mp none
      exact .inr ⟨next, ho, _, (innermostOpen_iff ho _ _).mp ⟨_, innermost, rfl⟩⟩

def OpenBlock.place (opened : OpenBlock) : Block × Span := (opened.kind, opened.span)

def blame : Except Mistake (List Node) → Except Span Unit
  | .ok _ => .ok ()
  | .error mistake => .error mistake.span

/-- The text around the tags changes the nodes that are built and nothing else. -/
theorem build_ofGap (offset : Nat) (dropFirst dropLast : Bool) (gap : List Char) :
    ∃ kept, ∀ (rest : List Token) (stack : List OpenBlock) (nodes : List Node),
      build (Token.ofGap offset dropFirst dropLast gap ++ rest) stack nodes =
        build rest stack (kept ++ nodes) := by
  obtain ⟨span, he⟩ := ofGap_eq offset dropFirst dropLast gap
  rw [he]
  split
  · exact ⟨[], fun _ _ _ => rfl⟩
  · exact ⟨[_], fun _ _ _ => by rw [List.singleton_append, build, List.singleton_append]⟩

theorem blame_build_ofPieces (pieces : Pieces) (atStart dropFirst : Bool) (read : List Char)
    (stack : List OpenBlock) (nodes : List Node) :
    blame (build (Token.ofPieces atStart dropFirst (byteLength read) pieces) stack nodes) =
      verdict (stack.map OpenBlock.place) (pieces.occurrences read) := by
  induction pieces generalizing atStart dropFirst read stack nodes with
  | last gap =>
    obtain ⟨kept, hb⟩ := build_ofGap (byteLength read) dropFirst false gap
    rw [Token.ofPieces, Pieces.occurrences, ← List.append_nil (Token.ofGap _ _ _ _), hb]
    cases stack <;> rfl
  | unterminated gap content =>
    obtain ⟨kept, hb⟩ := build_ofGap (byteLength read) dropFirst false gap
    simp only [Token.ofPieces, Pieces.occurrences, verdict, hb, build, blame]
    simp only [Occurrence.step, Occurrence.tag?, Bool.false_eq_true, if_false, Option.bind_none,
      Occurrence.span_of_unclosed, byteLength_append]
  | tag gap content next ih =>
    -- The next offset is the length of the text that is read up to the end of the tag.
    have ho : byteLength read + byteLength gap + 2 + byteLength content + 2 =
        byteLength (read ++ gap ++ openBraces ++ content ++ closeBraces) := by
      simp only [byteLength_append, byteLength_openBraces, byteLength_closeBraces]
    simp only [Token.ofPieces, Pieces.occurrences, verdict, Occurrence.step, Occurrence.tag?,
      if_true, Occurrence.span_of_closed, byteLength_append read gap]
    cases hr : Tag.read content with
    | error fault =>
      obtain ⟨kept, hb⟩ := build_ofGap (byteLength read) dropFirst false gap
      simp only [Except.toOption, Option.bind_none]
      rw [hb, build, blame]
    | ok tag =>
      simp only [Except.toOption, Option.bind_some]
      obtain ⟨kept, hb⟩ := build_ofGap (byteLength read) dropFirst
        (!tag.isValue && blankBefore atStart gap && blankAfter next) gap
      rw [hb]
      cases tag with
      | value name | inclusion template | opening kind name =>
        rw [build, Tag.step, ho]
        exact ih _ _ _ _ _
      | closing keyword =>
        cases stack with
        | nil =>
          rw [build]
          rfl
        | cons opened stack =>
          rw [build, List.map_cons, OpenBlock.place, Tag.step]
          by_cases hk : opened.kind.keyword = keyword
          · rw [if_pos hk, if_pos hk, ho]
            exact ih _ _ _ _ _
          · rw [if_neg hk, if_neg hk, blame]

theorem blame_parse (text : String) :
    blame (parse text) = verdict [] ((Pieces.outside text.toList).occurrences []) :=
  blame_build_ofPieces (.outside text.toList) true false [] [] []

theorem exists_parse_eq_ok_iff (text : String) :
    (∃ nodes, parse text = .ok nodes) ↔ blame (parse text) = .ok () := by
  cases parse text <;> simp [blame]

theorem exists_parse_eq_error_iff (text : String) (span : Span) :
    (∃ fault, parse text = .error ⟨fault, span⟩) ↔ blame (parse text) = .error span := by
  cases h : parse text with
  | ok nodes => simp [blame]
  | error mistake =>
    obtain ⟨fault, place⟩ := mistake
    simp [blame]

theorem Nested.exists_is {tags : List Occurrence} (h : Nested tags) :
    ∀ found ∈ tags, ∃ tag, found.Is tag := by
  induction h with
  | nil => simp
  | value leaf _ ih | inclusion leaf _ ih => exact List.forall_mem_cons.mpr ⟨⟨_, leaf⟩, ih⟩
  | block opens _ closes _ ihb ihr =>
    rw [List.cons_append, List.forall_mem_cons, List.forall_mem_append, List.forall_mem_cons]
    exact ⟨⟨_, opens⟩, ihb, ⟨_, closes⟩, ihr⟩

theorem Blamed.exists_span {tags : List Occurrence} {span : Span} (h : Blamed tags span) :
    ∃ found ∈ tags, found.span = span := by
  cases h with
  | offender place => exact ⟨_, by rw [place]; simp, rfl⟩
  | unclosed _ innermost =>
    obtain ⟨outer, inner, name, he, -⟩ := innermost
    exact ⟨_, by rw [he]; simp, rfl⟩

/-- A text is a template exactly when its tags, found by their delimiters, are all closed, all say
something and are nested. Otherwise the parser blames the leftmost tag that offends or, if none does,
the opening tag of the innermost block that stays open. The bytes it points to are never none, and
begin and end between characters of the text. -/
theorem parse_accepts_or_blames (text : String) :
    ∃ tags, (∀ other, Scans [] text.toList other ↔ other = tags) ∧
      ((∃ nodes, parse text = .ok nodes) ↔
        (∀ found ∈ tags, found.closed = true) ∧
        (∀ found ∈ tags, ∃ tag, Says found.content tag) ∧ Nested tags) ∧
      (∀ span, (∃ fault, parse text = .error ⟨fault, span⟩) ↔ Blamed tags span) ∧
      ∀ mistake, parse text = .error mistake →
        mistake.span.start < mistake.span.stop ∧ mistake.span.stop ≤ text.utf8ByteSize ∧
        (String.Pos.Raw.mk mistake.span.start).IsValid text ∧
        (String.Pos.Raw.mk mistake.span.stop).IsValid text := by
  refine ⟨(Pieces.outside text.toList).occurrences [], Pieces.scans_iff [] text.toList, ?_, ?_, ?_⟩
  · rw [exists_parse_eq_ok_iff, blame_parse, verdict_accepts_iff]
    constructor
    · intro h
      have his := h.exists_is
      refine ⟨fun found hm => ?_, fun found hm => ?_, h⟩
      · obtain ⟨tag, ht⟩ := his found hm
        exact ht.1
      · obtain ⟨tag, ht⟩ := his found hm
        exact ⟨tag, ht.2⟩
    · exact fun h => h.2.2
  · intro span
    rw [exists_parse_eq_error_iff, blame_parse, verdict_blames_iff]
  · intro mistake h
    have hb : Blamed ((Pieces.outside text.toList).occurrences []) mistake.span := by
      rw [← verdict_blames_iff, ← blame_parse, h, blame]
    obtain ⟨found, hm, hs⟩ := hb.exists_span
    have ht := Pieces.text_of_mem_occurrences hm
    rw [Pieces.text_outside, List.nil_append] at ht
    rw [← hs]
    exact found.span_valid ht

end PointerHelpers.Template
