import Mathlib.Logic.Relation
import PointerHelpers.Proofs.Template.Margins
import PointerHelpers.Proofs.Template.Slices

namespace PointerHelpers.Template.CursorLoop

/-- The positions that a turn of the loop takes from a tag: its own first byte and the byte behind it,
the end of the text before it that is kept, and where the next turn begins. -/
structure Turn where
  textStop : Nat
  start : Nat
  stop : Nat
  next : Nat
  line? : Option (Nat × Nat)
  kept : List Char
  mark : Tag

inductive Found where
  | last (kept : List Char)
  | wrong (mistake : Mistake)
  | tag (turn : Turn)

/-- The bytes of the line around a tag, with its newline, if the tag is alone on it. -/
def standaloneLine? (text : List Char) (start stop : Nat) : Option (Option (Nat × Nat)) := do
  let before ← sliceTo? text start
  let after ← sliceFrom? text stop
  let lineStart := (lastIndexOf? '\n' before).elim 0 (· + 1)
  let lineStop := (indexOf? ['\n'] after).elim (byteLength text) (stop + · + 1)
  let left ← slice? text lineStart start
  let right ← slice? text stop lineStop
  return if left.all isBlank && right.all isBlank then some (lineStart, lineStop) else none

def tagLine? (text : List Char) (mark : Tag) (start stop : Nat) : Option (Option (Nat × Nat)) :=
  if mark.isValue then some none else standaloneLine? text start stop

def turn? (text : List Char) (cursor start stop : Nat) (mark : Tag) : Option Turn := do
  let line? ← tagLine? text mark start stop
  let textStop := line?.elim start fun line => max line.1 cursor
  let next := line?.elim stop fun line => line.2
  let kept ← slice? text cursor textStop
  return ⟨textStop, start, stop, next, line?, kept, mark⟩

def searchTag (text : List Char) (cursor start : Nat) : Option Found := do
  let inner ← sliceFrom? text (start + 2)
  match indexOf? closeBraces inner with
  | none => return .wrong ⟨.unterminated, ⟨start, byteLength text⟩⟩
  | some length =>
    let content ← slice? text (start + 2) (start + 2 + length)
    let stop := start + 2 + length + 2
    match Tag.read content with
    | .error fault => return .wrong ⟨fault, ⟨start, stop⟩⟩
    | .ok mark => return .tag (← turn? text cursor start stop mark)

def search (text : List Char) (cursor : Nat) : Option Found := do
  let rest ← sliceFrom? text cursor
  match indexOf? openBraces rest with
  | none => return .last rest
  | some offset => searchTag text cursor (cursor + offset)

/-- Where the loop stands: the cursor, the open blocks, and the nodes of the innermost one with the
latest first. -/
structure Progress where
  cursor : Nat
  stack : List OpenBlock
  nodes : List Node

def Progress.start : Progress := ⟨0, [], []⟩

inductive Outcome where
  | finished (result : Except Mistake (List Node))
  | goesOn (later : Progress)

def pushText (nodes : List Node) (cs : List Char) : List Node :=
  if cs.isEmpty then nodes
  else
    match nodes with
    | .text earlier :: nodes => .text (earlier ++ .ofList cs) :: nodes
    | nodes => .text (.ofList cs) :: nodes

def enter (span : Span) :
    Tag → List OpenBlock → List Node → Except Mistake (List OpenBlock × List Node)
  | .value name, stack, nodes => .ok (stack, .value name :: nodes)
  | .inclusion template, stack, nodes => .ok (stack, .inclusion template :: nodes)
  | .opening kind name, stack, nodes => .ok (⟨kind, name, span, nodes⟩ :: stack, [])
  | .closing keyword, [], _ => .error ⟨.unopened keyword, span⟩
  | .closing keyword, opened :: stack, nodes =>
    if opened.kind.keyword = keyword then
      .ok (stack, .block opened.kind opened.name nodes.reverse :: opened.before)
    else .error ⟨.mismatched opened.kind keyword, span⟩

def Outcome.ofEntered (cursor : Nat) : Except Mistake (List OpenBlock × List Node) → Outcome
  | .error mistake => .finished (.error mistake)
  | .ok (stack, nodes) => .goesOn ⟨cursor, stack, nodes⟩

def Progress.after (progress : Progress) : Found → Outcome
  | .last kept => .finished (build [] progress.stack (pushText progress.nodes kept))
  | .wrong mistake => .finished (.error mistake)
  | .tag turn =>
    .ofEntered turn.next (enter ⟨turn.start, turn.stop⟩ turn.mark progress.stack
      (pushText progress.nodes turn.kept))

/-- A turn of the loop, unless it takes a part that the text does not have. -/
def Progress.step (text : String) (progress : Progress) : Option Outcome :=
  (search text.toList progress.cursor).map progress.after

def Progress.Advances (text : String) (progress later : Progress) : Prop :=
  progress.step text = some (.goesOn later)

def Progress.Reaches (text : String) : Progress → Progress → Prop :=
  Relation.ReflTransGen (Advances text)

def dropped (dropFirst : Bool) (rest : List Char) : List Char :=
  if dropFirst then throughNewline rest else []

/-- The cursor stands behind the text that is read up to the end of a tag, and behind the line of the
tag where that goes with it. -/
structure Stands (text : List Char) (cursor : Nat) (read rest : List Char)
    (atStart dropFirst : Bool) : Prop where
  text_eq : text = read ++ rest
  read_eq_nil : atStart = true → read = []
  read_tag : atStart = false → ∃ cs, read = cs ++ closeBraces
  blank : dropFirst = true → blankAfter (.outside rest) = true
  cursor_eq : cursor = byteLength (read ++ dropped dropFirst rest)

theorem dropped_append_keptGap (dropFirst : Bool) (cs : List Char) :
    dropped dropFirst cs ++ keptGap dropFirst false cs = cs := by
  have hm := keptGap_margins dropFirst false cs fun _ => .inr rfl
  rw [if_neg Bool.false_ne_true, List.append_nil] at hm
  exact hm.symm

theorem newline_mem_of_firstAt {rest gap inner : List Char}
    (ho : FirstAt openBraces rest gap inner) (h : blankAfter (.outside rest) = true) :
    '\n' ∈ gap := by
  obtain ⟨content, after, hc⟩ | hn := exists_firstAt_or_not_isInfix closeBraces inner
  · rw [Pieces.outside_tag ho hc] at h
    exact newline_mem_of_blankAfter h
  · rw [Pieces.outside_unterminated ho hn, blankAfter, Bool.and_eq_true, List.contains_iff_mem] at h
    exact h.1

section Line

variable (found : Occurrence) {text : List Char}
  (h : text = found.before ++ found.source ++ found.after)
include h

theorem slice?_lineBefore :
    slice? text (byteLength (beforeLastLine found.before)) found.span.start =
      some found.lineBefore := by
  rw [slice?_eq_some_iff]
  refine ⟨_, found.source ++ found.after, ?_, rfl, ?_⟩
  · rw [Occurrence.lineBefore, beforeLastLine_append_lastLine, h, List.append_assoc]
  · rw [← byteLength_append, Occurrence.lineBefore, beforeLastLine_append_lastLine]
    rfl

theorem slice?_lineAfter :
    slice? text found.span.stop (found.span.stop + byteLength found.lineAfter) =
      some found.lineAfter := by
  rw [slice?_eq_some_iff, found.span_stop]
  refine ⟨_, afterFirstLine found.after, ?_, rfl, rfl⟩
  rw [List.append_assoc, Occurrence.lineAfter, throughNewline_append_afterFirstLine, h]

theorem standaloneLine?_eq :
    standaloneLine? text found.span.start found.span.stop =
      some (if found.lineBefore.all isBlank && found.lineAfter.all isBlank then
        some (byteLength (beforeLastLine found.before),
          found.span.stop + byteLength found.lineAfter) else none) := by
  have hb : sliceTo? text found.span.start = some found.before := by
    rw [h, List.append_assoc]
    exact sliceTo?_append _ _
  have ha : sliceFrom? text found.span.stop = some found.after := by
    rw [h, found.span_stop]
    exact sliceFrom?_append _ _
  have hsize : byteLength text = found.span.stop + byteLength found.after := by
    rw [h, byteLength_append, found.span_stop]
  simp only [standaloneLine?, hb, ha, hsize, Option.bind_eq_bind, Option.bind_some,
    elim_lastIndexOf?_newline, elim_indexOf?_newline]
  rw [← Occurrence.lineAfter, slice?_lineBefore found h, slice?_lineAfter found h]
  rfl

end Line

theorem searchTag_unterminated {content : List Char} (hn : ¬ closeBraces <:+: content)
    (cursor : Nat) (before : List Char) :
    searchTag (before ++ openBraces ++ content) cursor (byteLength before) =
      some (.wrong ⟨.unterminated, Occurrence.span ⟨before, content, false, []⟩⟩) := by
  have hi : sliceFrom? (before ++ openBraces ++ content) (byteLength before + 2) = some content := by
    rw [← byteLength_openBraces, ← byteLength_append, sliceFrom?_append]
  rw [Occurrence.span_of_unclosed]
  simp only [searchTag, hi, Option.bind_eq_bind, Option.bind_some, indexOf?_of_not_isInfix hn,
    byteLength_append, byteLength_openBraces]
  rfl

theorem searchTag_closed {inner content after : List Char}
    (hc : FirstAt closeBraces inner content after) (cursor : Nat) (before : List Char) :
    searchTag (before ++ openBraces ++ inner) cursor (byteLength before) =
      let span := Occurrence.span ⟨before, content, true, after⟩
      match Tag.read content with
      | .error fault => some (.wrong ⟨fault, span⟩)
      | .ok mark =>
        (turn? (before ++ openBraces ++ inner) cursor span.start span.stop mark).map .tag := by
  have hb : byteLength before + 2 = byteLength (before ++ openBraces) := by
    rw [byteLength_append, byteLength_openBraces]
  have hi : sliceFrom? (before ++ openBraces ++ inner) (byteLength before + 2) = some inner := by
    rw [hb, sliceFrom?_append]
  have hs : slice? (before ++ openBraces ++ inner) (byteLength before + 2)
      (byteLength before + 2 + byteLength content) = some content := by
    rw [slice?_eq_some_iff, hb]
    refine ⟨before ++ openBraces, closeBraces ++ after, ?_, rfl, rfl⟩
    rw [hc.text_eq]
    simp only [List.append_assoc]
  have hf : indexOf? closeBraces inner = some (byteLength content) :=
    indexOf?_of_firstAt (List.cons_ne_nil _ _) hc
  rw [Occurrence.span_of_closed]
  simp only [searchTag, hi, hf, hs, Option.bind_eq_bind, Option.bind_some]
  cases Tag.read content with
  | error fault => rfl
  | ok mark => exact (Option.map_eq_bind).symm

def turnOf (cursor : Nat) (dropFirst : Bool) (gap : List Char) (found : Occurrence) (mark : Tag) :
    Turn :=
  let kept := keptGap dropFirst (found.isAlone mark) gap
  let textStop := cursor + byteLength kept
  let next := found.span.stop + byteLength (found.marginAfter mark)
  ⟨textStop, found.span.start, found.span.stop, next,
    if found.isAlone mark then some (textStop, next) else none, kept, mark⟩

theorem elim_line?_turnOf (cursor : Nat) (dropFirst : Bool) (gap : List Char) (found : Occurrence)
    (mark : Tag) :
    (turnOf cursor dropFirst gap found mark).line?.elim found.span.stop (fun line => line.2) =
      (turnOf cursor dropFirst gap found mark).next := by
  by_cases ha : found.isAlone mark = true
  · simp only [turnOf, if_pos ha, Option.elim_some]
  · simp only [turnOf, Occurrence.marginAfter, if_neg ha, Option.elim_none]
    rfl

namespace Stands

variable {text read rest : List Char} {cursor : Nat} {atStart dropFirst : Bool}

theorem text_eq_cursor (h : Stands text cursor read rest atStart dropFirst) :
    text = read ++ dropped dropFirst rest ++ keptGap dropFirst false rest := by
  rw [List.append_assoc, dropped_append_keptGap, h.text_eq]

theorem sliceFrom?_eq (h : Stands text cursor read rest atStart dropFirst) :
    sliceFrom? text cursor = some (keptGap dropFirst false rest) := by
  rw [h.cursor_eq, h.text_eq_cursor, sliceFrom?_append]

theorem search_last (h : Stands text cursor read rest atStart dropFirst)
    (hn : ¬ openBraces <:+: rest) : search text cursor = some (.last (keptGap dropFirst false rest)) := by
  have hk : ¬ openBraces <:+: keptGap dropFirst false rest := by
    intro hi
    rw [← dropped_append_keptGap dropFirst rest] at hn
    exact hn (hi.trans (List.suffix_append _ _).isInfix)
  simp only [search, h.sliceFrom?_eq, Option.bind_eq_bind, Option.bind_some,
    indexOf?_of_not_isInfix hk]
  rfl

section Tag

variable {gap inner : List Char} (h : Stands text cursor read rest atStart dropFirst)
  (ho : FirstAt openBraces rest gap inner)
include h ho

theorem newline_mem (hd : dropFirst = true) : '\n' ∈ gap :=
  newline_mem_of_firstAt ho (h.blank hd)

theorem dropped_eq : dropped dropFirst rest = dropped dropFirst gap := by
  cases hd : dropFirst with
  | false => rfl
  | true =>
    rw [ho.text_eq, List.append_assoc]
    exact throughNewline_append_of_mem (h.newline_mem ho hd) _

theorem text_eq_tag : text = read ++ gap ++ openBraces ++ inner := by
  rw [h.text_eq, ho.text_eq]
  simp only [List.append_assoc]

theorem read_append_gap_eq :
    read ++ gap = read ++ dropped dropFirst rest ++ keptGap dropFirst false gap := by
  rw [h.dropped_eq ho, List.append_assoc, dropped_append_keptGap]

/-- A tag is found behind the cursor, since a line that went with the tag before ends in the gap. -/
theorem search_eq : search text cursor = searchTag text cursor (byteLength (read ++ gap)) := by
  have hd := h.dropped_eq ho
  have hf : FirstAt openBraces (dropped dropFirst gap ++ keptGap dropFirst false rest)
      (dropped dropFirst gap ++ keptGap dropFirst false gap) inner := by
    rw [dropped_append_keptGap, ← hd, dropped_append_keptGap]
    exact ho
  have hi : indexOf? openBraces (keptGap dropFirst false rest) =
      some (byteLength (keptGap dropFirst false gap)) :=
    indexOf?_of_firstAt (List.cons_ne_nil _ _) hf.of_append
  have hc : cursor + byteLength (keptGap dropFirst false gap) = byteLength (read ++ gap) := by
    rw [h.cursor_eq, ← byteLength_append, ← h.read_append_gap_eq ho]
  simp only [search, h.sliceFrom?_eq, Option.bind_eq_bind, Option.bind_some, hi, hc]

theorem search_unterminated (hn : ¬ closeBraces <:+: inner) :
    search text cursor =
      some (.wrong ⟨.unterminated, Occurrence.span ⟨read ++ gap, inner, false, []⟩⟩) := by
  rw [h.search_eq ho, h.text_eq_tag ho, searchTag_unterminated hn]

end Tag

section Closed

variable {gap inner content after : List Char} (h : Stands text cursor read rest atStart dropFirst)
include h

theorem isAlone_eq (content : List Char) (mark : Tag) :
    Occurrence.isAlone ⟨read ++ gap, content, true, after⟩ mark =
      (!mark.isValue && blankBefore atStart gap && blankAfter (.outside after)) := by
  have ha := Template.isAlone_eq gap content (.outside after) mark h.read_eq_nil h.read_tag
  rw [Pieces.text_outside] at ha
  exact ha.symm

variable (ho : FirstAt openBraces rest gap inner) (hc : FirstAt closeBraces inner content after)
include ho

/-- The line of a tag does not go back over the tag before it: it begins behind the text that is kept
of the gap. -/
theorem read_append_gap (mark : Tag) :
    let found : Occurrence := ⟨read ++ gap, content, true, after⟩
    read ++ gap = read ++ dropped dropFirst rest ++ keptGap dropFirst (found.isAlone mark) gap ++
      found.marginBefore mark := by
  intro found
  have hm := marginBefore_eq gap content (.outside after) mark h.read_eq_nil h.read_tag
  rw [Pieces.text_outside] at hm
  rw [hm, h.dropped_eq ho, List.append_assoc, List.append_assoc, List.append_cancel_left_eq,
    ← List.append_assoc]
  exact keptGap_margins _ _ _ fun hd => .inl (h.newline_mem ho hd)

include hc

theorem text_eq_found :
    let found : Occurrence := ⟨read ++ gap, content, true, after⟩
    text = found.before ++ found.source ++ found.after := by
  rw [h.text_eq_tag ho, hc.text_eq]
  simp [Occurrence.source]

theorem tagLine?_eq (mark : Tag) :
    let found : Occurrence := ⟨read ++ gap, content, true, after⟩
    tagLine? text mark found.span.start found.span.stop =
      some (turnOf cursor dropFirst gap found mark).line? := by
  intro found
  rw [tagLine?, standaloneLine?_eq found (h.text_eq_found ho hc)]
  by_cases ha : found.isAlone mark = true
  · have hg : found.before = read ++ dropped dropFirst rest ++
        keptGap dropFirst (found.isAlone mark) gap ++ found.marginBefore mark :=
      h.read_append_gap ho mark
    have hb := beforeLastLine_append_lastLine found.before
    rw [Occurrence.marginBefore, if_pos ha] at hg
    have he := congrArg byteLength (List.append_cancel_right (hb.trans hg))
    rw [byteLength_append, ← h.cursor_eq] at he
    simp only [turnOf, Occurrence.marginAfter, if_pos ha, he]
    rw [Occurrence.isAlone, Bool.and_eq_true, Bool.and_eq_true, Bool.not_eq_true'] at ha
    simp only [ha, Bool.and_self, Bool.false_eq_true, if_true, if_false]
  · simp only [turnOf, if_neg ha]
    cases hv : mark.isValue with
    | true => rfl
    | false =>
      rw [Occurrence.isAlone, hv, Bool.not_false, Bool.true_and] at ha
      simp only [if_neg ha, Bool.false_eq_true, if_false]

theorem slice?_kept (mark : Tag) :
    let turn := turnOf cursor dropFirst gap ⟨read ++ gap, content, true, after⟩ mark
    slice? text cursor turn.textStop = some turn.kept := by
  intro turn
  let found : Occurrence := ⟨read ++ gap, content, true, after⟩
  have hg : found.before = read ++ dropped dropFirst rest ++ turn.kept ++ found.marginBefore mark :=
    h.read_append_gap ho mark
  rw [slice?_eq_some_iff, h.cursor_eq]
  refine ⟨_, found.marginBefore mark ++ (found.source ++ found.after), ?_, rfl, ?_⟩
  · rw [← List.append_assoc, ← hg, ← List.append_assoc]
    exact h.text_eq_found ho hc
  · rw [← h.cursor_eq]
    rfl

theorem turn?_eq (mark : Tag) :
    let found : Occurrence := ⟨read ++ gap, content, true, after⟩
    turn? text cursor found.span.start found.span.stop mark =
      some (turnOf cursor dropFirst gap found mark) := by
  intro found
  have hl : tagLine? text mark found.span.start found.span.stop =
      some (turnOf cursor dropFirst gap found mark).line? := h.tagLine?_eq ho hc mark
  have hg : found.before = read ++ dropped dropFirst rest ++
      keptGap dropFirst (found.isAlone mark) gap ++ found.marginBefore mark :=
    h.read_append_gap ho mark
  have hs : (turnOf cursor dropFirst gap found mark).line?.elim found.span.start
      (fun line => max line.1 cursor) = (turnOf cursor dropFirst gap found mark).textStop := by
    by_cases ha : found.isAlone mark = true
    · simp only [turnOf, if_pos ha, Option.elim_some]
      omega
    · rw [Occurrence.marginBefore, if_neg ha, List.append_nil] at hg
      have he := congrArg byteLength hg
      rw [byteLength_append (read ++ _), ← h.cursor_eq] at he
      simp only [turnOf, if_neg ha, Option.elim_none]
      exact he
  simp only [turn?, hl, Option.bind_eq_bind, Option.bind_some]
  rw [hs, h.slice?_kept ho hc, elim_line?_turnOf]
  rfl

theorem next (mark : Tag) :
    let found : Occurrence := ⟨read ++ gap, content, true, after⟩
    Stands text (turnOf cursor dropFirst gap found mark).next
      (read ++ gap ++ openBraces ++ content ++ closeBraces) after false (found.isAlone mark) := by
  intro found
  have hs : read ++ gap ++ openBraces ++ content ++ closeBraces = found.before ++ found.source := by
    simp [found, Occurrence.source]
  refine
    { text_eq := ?_
      read_eq_nil := fun hs => (Bool.false_ne_true hs).elim
      read_tag := fun _ => ⟨_, rfl⟩
      blank := fun ha => ?_
      cursor_eq := ?_ }
  · rw [hs]
    exact h.text_eq_found ho hc
  · rw [h.isAlone_eq, Bool.and_eq_true] at ha
    exact ha.2
  · rw [byteLength_append, hs, byteLength_append]
    rfl

theorem search_closed :
    let found : Occurrence := ⟨read ++ gap, content, true, after⟩
    search text cursor =
      match Tag.read content with
      | .error fault => some (.wrong ⟨fault, found.span⟩)
      | .ok mark => some (.tag (turnOf cursor dropFirst gap found mark)) := by
  intro found
  rw [h.search_eq ho, h.text_eq_tag ho, searchTag_closed hc, ← h.text_eq_tag ho]
  cases Tag.read content with
  | error fault => rfl
  | ok mark =>
    have ht := h.turn?_eq ho hc mark
    simp only at ht ⊢
    rw [ht, Option.map_some]

end Closed

end Stands

end PointerHelpers.Template.CursorLoop
