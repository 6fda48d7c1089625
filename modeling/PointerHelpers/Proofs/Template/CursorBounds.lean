import PointerHelpers.Proofs.Template.CursorLoop

namespace PointerHelpers.Template.CursorLoop

structure Turn.InBounds (text : String) (cursor : Nat) (turn : Turn) : Prop where
  cursor_le : cursor ≤ turn.textStop
  textStop_le : turn.textStop ≤ turn.start
  start_lt : turn.start < turn.stop
  stop_le : turn.stop ≤ turn.next
  next_le : turn.next ≤ text.utf8ByteSize
  valid : ∀ bound ∈ [cursor, turn.textStop, turn.start, turn.stop, turn.next],
    (String.Pos.Raw.mk bound).IsValid text
  kept : slice? text.toList cursor turn.textStop = some turn.kept
  line : ∀ line ∈ turn.line?, cursor ≤ line.1 ∧ turn.textStop = line.1 ∧ turn.next = line.2

theorem Turn.InBounds.cursor_lt_next {text : String} {cursor : Nat} {turn : Turn}
    (h : turn.InBounds text cursor) : cursor < turn.next := by
  calc
    cursor ≤ turn.textStop := h.cursor_le
    _ ≤ turn.start := h.textStop_le
    _ < turn.stop := h.start_lt
    _ ≤ turn.next := h.stop_le

theorem Turn.InBounds.textStop_le_next {text : String} {cursor : Nat} {turn : Turn}
    (h : turn.InBounds text cursor) : turn.textStop ≤ turn.next := by
  calc
    turn.textStop ≤ turn.start := h.textStop_le
    _ ≤ turn.stop := h.start_lt.le
    _ ≤ turn.next := h.stop_le

def Found.InBounds (text : String) (cursor : Nat) : Found → Prop
  | .last kept =>
    cursor ≤ text.utf8ByteSize ∧ (String.Pos.Raw.mk cursor).IsValid text ∧
      sliceFrom? text.toList cursor = some kept
  | .wrong mistake =>
    cursor ≤ mistake.span.start ∧ mistake.span.start < mistake.span.stop ∧
      mistake.span.stop ≤ text.utf8ByteSize ∧
      ∀ bound ∈ [cursor, mistake.span.start, mistake.span.stop],
        (String.Pos.Raw.mk bound).IsValid text
  | .tag turn => turn.InBounds text cursor

def Found.region? (text : String) (cursor : Nat) : Found → Option Span
  | .last _ => some ⟨cursor, text.utf8ByteSize⟩
  | .wrong _ => none
  | .tag turn => some ⟨cursor, turn.textStop⟩

namespace Stands

variable {text : String} {read rest gap inner : List Char} {cursor : Nat} {atStart dropFirst : Bool}

theorem isValid (h : Stands text.toList cursor read rest atStart dropFirst) :
    (String.Pos.Raw.mk cursor).IsValid text := by
  rw [h.cursor_eq]
  exact isValid_byteLength h.text_eq_cursor

theorem cursor_le (h : Stands text.toList cursor read rest atStart dropFirst) :
    cursor ≤ text.utf8ByteSize := by
  rw [h.cursor_eq]
  exact byteLength_le_utf8ByteSize h.text_eq_cursor

theorem last_inBounds (h : Stands text.toList cursor read rest atStart dropFirst) :
    (Found.last (keptGap dropFirst false rest)).InBounds text cursor :=
  ⟨h.cursor_le, h.isValid, h.sliceFrom?_eq⟩

theorem wrong_inBounds (h : Stands text.toList cursor read rest atStart dropFirst)
    (ho : FirstAt openBraces rest gap inner) (fault : Fault) {found : Occurrence}
    (hb : found.before = read ++ gap)
    (ht : found.before ++ found.source ++ found.after = text.toList) :
    (Found.wrong ⟨fault, found.span⟩).InBounds text cursor := by
  obtain ⟨hlt, hle, hstart, hstop⟩ := found.span_valid ht
  refine ⟨?_, hlt, hle, by simp [h.isValid, hstart, hstop]⟩
  have hs := congrArg byteLength (hb.trans (h.read_append_gap_eq ho))
  rw [byteLength_append (read ++ _), ← h.cursor_eq] at hs
  exact Nat.le.intro hs.symm

theorem turn_inBounds {content after : List Char}
    (h : Stands text.toList cursor read rest atStart dropFirst)
    (ho : FirstAt openBraces rest gap inner) (hc : FirstAt closeBraces inner content after)
    (mark : Tag) :
    (turnOf cursor dropFirst gap ⟨read ++ gap, content, true, after⟩ mark).InBounds text cursor := by
  let found : Occurrence := ⟨read ++ gap, content, true, after⟩
  let turn := turnOf cursor dropFirst gap found mark
  have ht : text.toList = found.before ++ found.source ++ found.after := h.text_eq_found ho hc
  obtain ⟨hlt, -, hstart, hstop⟩ := found.span_valid ht.symm
  have hg : found.before = read ++ dropped dropFirst rest ++ turn.kept ++ found.marginBefore mark :=
    h.read_append_gap ho mark
  have hkept : turn.textStop = byteLength (read ++ dropped dropFirst rest ++ turn.kept) := by
    rw [byteLength_append, ← h.cursor_eq]
    rfl
  have hbefore : turn.start = turn.textStop + byteLength (found.marginBefore mark) := by
    rw [hkept, ← byteLength_append, ← hg]
    rfl
  have hnext : turn.next = byteLength (found.before ++ found.source ++ found.marginAfter mark) := by
    rw [byteLength_append, ← found.span_stop]
    rfl
  -- The text is cut at the end of what is kept and at the end of the margin behind the tag.
  have hcut : text.toList = read ++ dropped dropFirst rest ++ turn.kept ++
      (found.marginBefore mark ++ found.source ++ found.after) := by
    rw [ht, hg]
    simp only [List.append_assoc]
  have hread : text.toList = found.before ++ found.source ++ found.marginAfter mark ++
      keptGap (found.isAlone mark) false after := by
    rw [List.append_assoc _ (found.marginAfter mark)]
    exact ht.trans (congrArg _ (dropped_append_keptGap (found.isAlone mark) after).symm)
  refine
    { cursor_le := Nat.le_add_right _ _
      textStop_le := Nat.le.intro hbefore.symm
      start_lt := hlt
      stop_le := Nat.le_add_right _ _
      next_le := hnext ▸ byteLength_le_utf8ByteSize hread
      valid := ?_
      kept := h.slice?_kept ho hc mark
      line := ?_ }
  · simp only [List.forall_mem_cons]
    exact ⟨h.isValid, hkept ▸ isValid_byteLength hcut, hstart, hstop,
      hnext ▸ isValid_byteLength hread, List.forall_mem_nil _⟩
  · intro line hl
    obtain ⟨-, hl⟩ := Option.mem_ite_none_right.mp hl
    cases hl
    exact ⟨Nat.le_add_right _ _, rfl, rfl⟩

end Stands

def IsTextless (nodes : List Node) : Prop := ∀ content, nodes.head? ≠ some (.text content)

theorem pushText_of_isTextless {nodes : List Node} (h : IsTextless nodes) (cs : List Char) :
    pushText nodes cs = if cs.isEmpty then nodes else .text (.ofList cs) :: nodes := by
  unfold pushText
  split
  · rfl
  · split
    · exact absurd rfl (h _)
    · rfl

theorem build_ofGap_append {nodes : List Node} (h : IsTextless nodes) (offset : Nat)
    (dropFirst dropLast : Bool) (gap : List Char) (tokens : List Token) (stack : List OpenBlock) :
    build (Token.ofGap offset dropFirst dropLast gap ++ tokens) stack nodes =
      build tokens stack (pushText nodes (keptGap dropFirst dropLast gap)) := by
  obtain ⟨span, he⟩ := ofGap_eq offset dropFirst dropLast gap
  rw [he, pushText_of_isTextless h]
  split
  · rfl
  · rw [List.singleton_append, build]

theorem build_tag (span : Span) (mark : Tag) (tokens : List Token) (stack : List OpenBlock)
    (nodes : List Node) :
    build (⟨span, .tag mark⟩ :: tokens) stack nodes =
      match enter span mark stack nodes with
      | .error mistake => .error mistake
      | .ok (stack, nodes) => build tokens stack nodes := by
  cases mark with
  | value name | inclusion template | opening kind name => rw [build, enter]
  | closing keyword =>
    cases stack with
    | nil => rw [build, enter]
    | cons opened stack =>
      rw [build, enter]
      split <;> rfl

theorem isTextless_of_enter {span : Span} {mark : Tag} {stack stack' : List OpenBlock}
    {nodes nodes' : List Node} (h : enter span mark stack nodes = .ok (stack', nodes')) :
    IsTextless nodes' := by
  intro content
  cases mark with
  | value name | inclusion template | opening kind name =>
    cases h
    simp
  | closing keyword =>
    cases stack with
    | nil => cases h
    | cons opened stack =>
      rw [enter] at h
      split at h
      · cases h
        simp
      · cases h

namespace Progress

/-- The loop goes on as `parse` does with the tokens of the text that is left. -/
structure Tracks (text : String) (progress : Progress) (read rest : List Char)
    (atStart dropFirst : Bool) : Prop where
  stands : Stands text.toList progress.cursor read rest atStart dropFirst
  textless : IsTextless progress.nodes
  parse_eq : parse text = build (Token.ofPieces atStart dropFirst (byteLength read) (.outside rest))
    progress.stack progress.nodes

def Agrees (text : String) : Outcome → Prop
  | .finished result => result = parse text
  | .goesOn later => ∃ read rest dropFirst, later.Tracks text read rest false dropFirst

theorem tracks_start (text : String) : start.Tracks text [] text.toList true false where
  stands :=
    { text_eq := rfl
      read_eq_nil := fun _ => rfl
      read_tag := fun h => (Bool.false_ne_true h.symm).elim
      blank := fun h => (Bool.false_ne_true h).elim
      cursor_eq := rfl }
  textless := by simp [IsTextless, start]
  parse_eq := rfl

namespace Tracks

variable {text : String} {progress : Progress} {read rest gap inner content after : List Char}
  {atStart dropFirst : Bool}

theorem agrees_last (h : progress.Tracks text read rest atStart dropFirst)
    (hn : ¬ openBraces <:+: rest) :
    Agrees text (progress.after (.last (keptGap dropFirst false rest))) := by
  rw [after, Agrees, h.parse_eq, Pieces.outside_last hn, Token.ofPieces,
    ← List.append_nil (Token.ofGap _ _ _ _), build_ofGap_append h.textless]

theorem agrees_unterminated (h : progress.Tracks text read rest atStart dropFirst)
    (ho : FirstAt openBraces rest gap inner) (hn : ¬ closeBraces <:+: inner) :
    Agrees text (progress.after
      (.wrong ⟨.unterminated, Occurrence.span ⟨read ++ gap, inner, false, []⟩⟩)) := by
  rw [after, Agrees, h.parse_eq, Pieces.outside_unterminated ho hn, Token.ofPieces,
    build_ofGap_append h.textless, build, Occurrence.span_of_unclosed, byteLength_append]

theorem agrees_malformed (h : progress.Tracks text read rest atStart dropFirst)
    (ho : FirstAt openBraces rest gap inner) (hc : FirstAt closeBraces inner content after)
    {fault : Fault} (hr : Tag.read content = .error fault) :
    Agrees text (progress.after
      (.wrong ⟨fault, Occurrence.span ⟨read ++ gap, content, true, after⟩⟩)) := by
  rw [Progress.after, Agrees, h.parse_eq, Pieces.outside_tag ho hc, Token.ofPieces, hr]
  simp only
  rw [build_ofGap_append h.textless, build, Occurrence.span_of_closed, byteLength_append]

theorem agrees_tag (h : progress.Tracks text read rest atStart dropFirst)
    (ho : FirstAt openBraces rest gap inner) (hc : FirstAt closeBraces inner content after)
    {mark : Tag} (hr : Tag.read content = .ok mark) :
    Agrees text (progress.after
      (.tag (turnOf progress.cursor dropFirst gap ⟨read ++ gap, content, true, after⟩ mark))) := by
  let found : Occurrence := ⟨read ++ gap, content, true, after⟩
  let nodes := pushText progress.nodes (keptGap dropFirst (found.isAlone mark) gap)
  have hp : parse text =
      match enter found.span mark progress.stack nodes with
      | .error mistake => .error mistake
      | .ok (stack, nodes) =>
        build (Token.ofPieces false (found.isAlone mark) found.span.stop (.outside after)) stack
          nodes := by
    rw [h.parse_eq, Pieces.outside_tag ho hc, Token.ofPieces, hr]
    simp only
    rw [← h.stands.isAlone_eq content, build_ofGap_append h.textless, build_tag]
    simp only [found, nodes, Occurrence.span_of_closed, byteLength_append]
  have hstop : found.span.stop = byteLength (read ++ gap ++ openBraces ++ content ++ closeBraces) := by
    simp only [found, Occurrence.span_of_closed, byteLength_append, byteLength_openBraces,
      byteLength_closeBraces]
  -- What is read with the tag is the new offset of the tokens that are left.
  rw [hstop] at hp
  show Agrees text (.ofEntered _ (enter found.span mark progress.stack nodes))
  cases he : enter found.span mark progress.stack nodes with
  | error mistake =>
    rw [he] at hp
    exact hp.symm
  | ok opened =>
    rw [he] at hp
    exact ⟨_, _, _, h.stands.next ho hc mark, isTextless_of_enter he, hp⟩

/-- Step: a turn finds a tag or the end of the text within bounds, and goes on as `parse` does. -/
theorem step (h : progress.Tracks text read rest atStart dropFirst) :
    ∃ found, search text.toList progress.cursor = some found ∧
      found.InBounds text progress.cursor ∧ Agrees text (progress.after found) := by
  obtain ⟨gap, inner, ho⟩ | hn := exists_firstAt_or_not_isInfix openBraces rest
  · obtain ⟨content, after, hc⟩ | hn := exists_firstAt_or_not_isInfix closeBraces inner
    · have hs := h.stands.search_closed ho hc
      cases hr : Tag.read content with
      | error fault =>
        rw [hr] at hs
        have ht := h.stands.text_eq_found ho hc
        exact ⟨_, hs, h.stands.wrong_inBounds ho fault rfl ht.symm, h.agrees_malformed ho hc hr⟩
      | ok mark =>
        rw [hr] at hs
        exact ⟨_, hs, h.stands.turn_inBounds ho hc mark, h.agrees_tag ho hc hr⟩
    · refine ⟨_, h.stands.search_unterminated ho hn, ?_, h.agrees_unterminated ho hn⟩
      apply h.stands.wrong_inBounds ho .unterminated rfl
      rw [h.stands.text_eq_tag ho]
      simp [Occurrence.source]
  · exact ⟨_, h.stands.search_last hn, h.stands.last_inBounds, h.agrees_last hn⟩

theorem agrees_of_step (h : progress.Tracks text read rest atStart dropFirst) {outcome : Outcome}
    (hs : progress.step text = some outcome) : Agrees text outcome := by
  obtain ⟨found, hf, -, ha⟩ := h.step
  rw [Progress.step, hf, Option.map_some, Option.some_inj] at hs
  rwa [hs] at ha

end Tracks

/-- Run: every state that the loop comes to goes on as `parse` does. -/
theorem exists_tracks {text : String} {progress : Progress} (h : start.Reaches text progress) :
    ∃ read rest atStart dropFirst, progress.Tracks text read rest atStart dropFirst := by
  induction h with
  | refl => exact ⟨_, _, _, _, tracks_start text⟩
  | tail _ advances ih =>
    obtain ⟨_, _, _, _, ht⟩ := ih
    obtain ⟨read, rest, dropFirst, ht⟩ := ht.agrees_of_step advances
    exact ⟨read, rest, false, dropFirst, ht⟩

theorem Advances.exists_turn {text : String} {progress later : Progress}
    (h : progress.Advances text later) :
    ∃ turn, search text.toList progress.cursor = some (.tag turn) ∧ later.cursor = turn.next ∧
      enter ⟨turn.start, turn.stop⟩ turn.mark progress.stack (pushText progress.nodes turn.kept) =
        .ok (later.stack, later.nodes) := by
  obtain ⟨found, hs, he⟩ := Option.map_eq_some_iff.mp h
  cases found with
  | last kept => cases he
  | wrong mistake => cases he
  | tag turn =>
    rw [after] at he
    cases hn : enter ⟨turn.start, turn.stop⟩ turn.mark progress.stack
      (pushText progress.nodes turn.kept) with
    | error mistake =>
      rw [hn] at he
      cases he
    | ok opened =>
      rw [hn] at he
      cases he
      exact ⟨turn, hs, rfl, hn⟩

theorem Tracks.cursor_lt {text : String} {progress later : Progress} {read rest : List Char}
    {atStart dropFirst : Bool} (h : progress.Tracks text read rest atStart dropFirst)
    (ha : progress.Advances text later) : progress.cursor < later.cursor := by
  obtain ⟨turn, ht, hn, -⟩ := ha.exists_turn
  obtain ⟨found, hs, hb, -⟩ := h.step
  cases ht.symm.trans hs
  rw [hn]
  exact Turn.InBounds.cursor_lt_next hb

/-- The loop ends, since the cursor grows with each turn and stays within the text. -/
theorem Tracks.exists_finished {text : String} {progress : Progress} {read rest : List Char}
    {atStart dropFirst : Bool} (h : progress.Tracks text read rest atStart dropFirst) :
    ∃ last, progress.Reaches text last ∧ last.step text = some (.finished (parse text)) := by
  obtain ⟨found, hs, -, -⟩ := h.step
  have hstep : progress.step text = some (progress.after found) := by
    rw [Progress.step, hs, Option.map_some]
  cases ho : progress.after found with
  | finished result =>
    rw [ho] at hstep
    obtain rfl : result = parse text := h.agrees_of_step hstep
    exact ⟨progress, .refl, hstep⟩
  | goesOn later =>
    rw [ho] at hstep
    obtain ⟨read, rest, dropFirst, ht⟩ := h.agrees_of_step hstep
    have hlt := h.cursor_lt hstep
    have hle := ht.stands.cursor_le
    obtain ⟨last, hr, hf⟩ := ht.exists_finished
    exact ⟨last, .head hstep hr, hf⟩
termination_by text.utf8ByteSize - progress.cursor

theorem next_le_cursor {text : String} {progress later : Progress} {turn : Turn}
    (h : start.Reaches text progress)
    (hs : search text.toList progress.cursor = some (.tag turn))
    (hl : Relation.TransGen (Advances text) progress later) : turn.next ≤ later.cursor := by
  induction hl with
  | single advances =>
    obtain ⟨turn, ht, hn, -⟩ := advances.exists_turn
    cases hs.symm.trans ht
    exact hn.ge
  | tail hl advances ih =>
    obtain ⟨_, _, _, _, ht⟩ := exists_tracks (h.trans hl.to_reflTransGen)
    exact ih.trans (ht.cursor_lt advances).le

/-- The loop with a cursor ends on every text with what `parse` gives. In each turn it finds a tag, the
end of the text or a mistake within bounds, and what it keeps ends before each later turn begins. -/
theorem cursor_in_bounds (text : String) :
    (∀ result, (∃ last, start.Reaches text last ∧ last.step text = some (.finished result)) ↔
      result = parse text) ∧
    ∀ progress, start.Reaches text progress →
      ∃ found, search text.toList progress.cursor = some found ∧
        found.InBounds text progress.cursor ∧
        ∀ later, Relation.TransGen (Advances text) progress later →
          progress.cursor < later.cursor ∧
            ∀ region ∈ found.region? text progress.cursor, region.stop ≤ later.cursor := by
  refine ⟨fun result => ⟨?_, ?_⟩, fun progress h => ?_⟩
  · rintro ⟨last, hr, hf⟩
    obtain ⟨_, _, _, _, ht⟩ := exists_tracks hr
    exact ht.agrees_of_step hf
  · rintro rfl
    exact (tracks_start text).exists_finished
  · obtain ⟨_, _, _, _, ht⟩ := exists_tracks h
    obtain ⟨found, hs, hb, -⟩ := ht.step
    refine ⟨found, hs, hb, fun later hl => ?_⟩
    obtain ⟨middle, hm, -⟩ := Relation.TransGen.head'_iff.mp hl
    obtain ⟨turn, hturn, -⟩ := hm.exists_turn
    cases hs.symm.trans hturn
    have hn := next_le_cursor h hs hl
    refine ⟨(Turn.InBounds.cursor_lt_next hb).trans_le hn, ?_⟩
    rintro region ⟨⟩
    exact (Turn.InBounds.textStop_le_next hb).trans hn

example : search ("é\n " ++ braced "#if x" ++ "\n").toList 0 =
    some (.tag ⟨3, 4, 13, 14, some (3, 14), ['é', '\n'], .opening .when "x"⟩) :=
  rfl

/-- The line of a tag goes back to a newline within the tag before, whose braces are not blank. -/
example : search (braced "x\n" ++ "  " ++ braced "/if" ++ "\n").toList 6 =
    some (.tag ⟨8, 8, 15, 15, none, [' ', ' '], .closing "if"⟩) :=
  rfl

end Progress

end PointerHelpers.Template.CursorLoop
