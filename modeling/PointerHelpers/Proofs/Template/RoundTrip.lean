import PointerHelpers.Proofs.Template.Layout

namespace PointerHelpers.Template

open Text

/-- Texts that keep apart from the tags beside them. -/
def IsSolid (cs : List Char) : Prop :=
  cs ≠ [] ∧ (∀ c ∈ cs.head?, isBlank c = false) ∧ (∀ c ∈ cs.getLast?, isBlank c = false) ∧
    cs.getLast? ≠ some '{' ∧ ¬ openBraces <:+: cs

/-- A look at the character that was found, if one was, instead of one at all characters. -/
def decidableEnd (found : Option Char) (isKind : Char → Bool) :
    Decidable (∀ c ∈ found, isKind c = false) :=
  Option.decidableForallMem found

def decidableOccurs (mark cs : List Char) : Decidable (mark <:+: cs) :=
  List.instDecidableIsInfixOfDecidableEq mark cs

instance : DecidablePred IsSolid := fun cs =>
  have := decidableEnd cs.head? isBlank
  have := decidableEnd cs.getLast? isBlank
  have := decidableOccurs openBraces cs
  inferInstanceAs (Decidable (_ ∧ _))

def IsTemplateName (cs : List Char) : Prop :=
  cs ≠ [] ∧ (∀ c ∈ cs.head?, isWhite c = false) ∧ (∀ c ∈ cs.getLast?, isWhite c = false) ∧
    ¬ closeBraces <:+: cs

instance : DecidablePred IsTemplateName := fun cs =>
  have := decidableEnd cs.head? isWhite
  have := decidableEnd cs.getLast? isWhite
  have := decidableOccurs closeBraces cs
  inferInstanceAs (Decidable (_ ∧ _))

def Node.isText : Node → Bool
  | .text _ => true
  | _ => false

mutual

def Node.IsPrintable : Node → Prop
  | .text content => IsSolid content.toList
  | .value name => isIdentifier name.toList = true
  | .inclusion template => IsTemplateName template.toList
  | .block _ name body => isIdentifier name.toList = true ∧ ArePrintable body

/-- Trees in which no two texts are beside one another. -/
def ArePrintable : List Node → Prop
  | [] => True
  | node :: rest =>
    node.IsPrintable ∧ (∀ next ∈ rest.head?, (node.isText && next.isText) = false) ∧
      ArePrintable rest

end

mutual

instance decidableIsPrintable : (node : Node) → Decidable node.IsPrintable
  | .text content => inferInstanceAs (Decidable (IsSolid content.toList))
  | .value name => inferInstanceAs (Decidable (isIdentifier name.toList = true))
  | .inclusion template => inferInstanceAs (Decidable (IsTemplateName template.toList))
  | .block _ name body =>
    have := decidableArePrintable body
    inferInstanceAs (Decidable (isIdentifier name.toList = true ∧ ArePrintable body))

instance decidableArePrintable : (nodes : List Node) → Decidable (ArePrintable nodes)
  | [] => inferInstanceAs (Decidable True)
  | node :: rest =>
    have := decidableIsPrintable node
    have := decidableArePrintable rest
    inferInstanceAs (Decidable (node.IsPrintable ∧
      (∀ next ∈ rest.head?, (node.isText && next.isText) = false) ∧ ArePrintable rest))

end

namespace Tag

def written : Tag → List Char
  | .inclusion template => '>' :: ' ' :: template.toList ++ [' ']
  | mark => mark.content

def IsWritable : Tag → Prop
  | .inclusion template => IsTemplateName template.toList
  | mark => mark.IsProper

theorem isWritable_closing (kind : Block) : (closing kind.keyword).IsWritable := by
  cases kind
  · exact .inl rfl
  · exact .inr rfl

theorem toList_print (mark : Tag) :
    mark.print.toList = openBraces ++ mark.written ++ closeBraces := by
  cases mark <;> simp [print, braced, written, content, openBraces, closeBraces]

theorem read_congr {content content' : List Char} (h : trim content = trim content') :
    read content = read content' := by
  rw [read, read, h]

/-- Only an include is written with a space behind its name. -/
theorem IsWritable.proper_or_inclusion {mark : Tag} (h : mark.IsWritable) :
    mark.IsProper ∧ mark.written = mark.content ∨
      ∃ template, mark = .inclusion template ∧ IsTemplateName template.toList := by
  cases mark with
  | value | opening | closing => exact .inl ⟨h, rfl⟩
  | inclusion template => exact .inr ⟨template, rfl, h⟩

theorem read_written {mark : Tag} (h : mark.IsWritable) : read mark.written = .ok mark := by
  obtain ⟨hp, hw⟩ | ⟨template, rfl, hn, hh, hl, -⟩ := h.proper_or_inclusion
  · rw [hw, read_content hp]
  · rw [written, read_congr (trim_append_of_isWhite (by decide) _)]
    exact read_inclusion hn (trim_eq_self hh hl)

/-- The space keeps a name that ends with a closing brace from the braces behind it. -/
theorem written_isInfix {mark : Tag} (h : mark.IsWritable) :
    ¬ closeBraces <:+: mark.written ++ ['}'] := by
  obtain ⟨hp, hw⟩ | ⟨template, rfl, -, -, -, hc⟩ := h.proper_or_inclusion
  · rw [hw]
    exact content_isInfix hp
  · refine not_closeBraces_isInfix_cons (by decide) (not_closeBraces_isInfix_cons (by decide) ?_)
    change ¬ closeBraces <:+: (template.toList ++ [' ']) ++ ['}']
    rw [List.infix_concat_iff, List.infix_concat_iff]
    rintro (⟨before, he⟩ | ⟨before, he⟩ | hi)
    · have hb : (before ++ ['}']) ++ ['}'] = (template.toList ++ [' ']) ++ ['}'] := by
        rw [← he, closeBraces, List.append_assoc]
        rfl
      have hl := congrArg List.getLast? (List.append_cancel_right hb)
      simp at hl
    · have hl := congrArg List.getLast? he
      simp [closeBraces] at hl
    · exact hc hi

end Tag

def writtenEvents : List Event → List Char
  | [] => []
  | .text content :: rest => content.toList ++ writtenEvents rest
  | .tag mark :: rest => mark.print.toList ++ writtenEvents rest

theorem writtenEvents_append (events rest : List Event) :
    writtenEvents (events ++ rest) = writtenEvents events ++ writtenEvents rest := by
  induction events with
  | nil => rfl
  | cons event events ih => cases event <;> simp [writtenEvents, ih]

mutual

theorem toList_printNode : (node : Node) → (printNode node).toList = writtenEvents (readNode node)
  | .text _ | .value _ | .inclusion _ => by simp [printNode, readNode, writtenEvents]
  | .block kind name body => by
    simp [printNode, readNode, writtenEvents, writtenEvents_append, toList_printNodes body]

theorem toList_printNodes : (nodes : List Node) →
    (printNodes nodes).toList = writtenEvents (readNodes nodes)
  | [] => rfl
  | node :: rest => by
    rw [printNodes, readNodes, String.toList_append, writtenEvents_append, toList_printNode node,
      toList_printNodes rest]

end

/-- Texts and tags that can be told apart again without line breaks between them. The flag says
whether the event before is a text. -/
def StandApart (joined : Bool) : List Event → Prop
  | [] => True
  | .text content :: rest => joined = false ∧ IsSolid content.toList ∧ StandApart true rest
  | .tag mark :: rest => mark.IsWritable ∧ StandApart false rest

mutual

theorem standApart_readNode {joined : Bool} {rest : List Event} : (node : Node) →
    node.IsPrintable → (node.isText = true → joined = false) → StandApart node.isText rest →
    StandApart joined (readNode node ++ rest)
  | .text content, h, hj, hr => ⟨hj rfl, h, hr⟩
  | .value name, h, _, hr => ⟨h, hr⟩
  | .inclusion template, h, _, hr => ⟨h, hr⟩
  | .block kind name body, h, _, hr => by
    rw [readNode, List.append_assoc, List.cons_append]
    exact ⟨h.1, standApart_readNodes body h.2 (fun _ _ _ => rfl)
      fun _ => ⟨Tag.isWritable_closing kind, hr⟩⟩

theorem standApart_readNodes {joined : Bool} {rest : List Event} : (nodes : List Node) →
    ArePrintable nodes → (∀ node ∈ nodes.head?, node.isText = true → joined = false) →
    (∀ joined, StandApart joined rest) → StandApart joined (readNodes nodes ++ rest)
  | [], _, _, hr => hr joined
  | node :: nodes, h, hj, hr => by
    rw [readNodes, List.append_assoc]
    refine standApart_readNode node h.1 (hj node rfl) (standApart_readNodes nodes h.2.2 ?_ hr)
    intro next hn ht
    have hb := h.2.1 next hn
    rwa [ht, Bool.and_true] at hb

end

theorem all_isBlank_firstLine {cs : List Char} {c : Char} (hc : c ∈ cs.head?)
    (h : isBlank c = false) : (firstLine cs).all isBlank = false := by
  obtain ⟨rest, rfl⟩ := List.head?_eq_some_iff.mp hc
  have hn : (c != '\n') = true := by
    rw [bne_iff_ne]
    rintro rfl
    cases h
  rw [firstLine, List.takeWhile_cons, hn, if_pos rfl, List.all_cons, h, Bool.false_and]

theorem all_isBlank_lastLine {cs : List Char} {c : Char} (hc : c ∈ cs.getLast?)
    (h : isBlank c = false) : (lastLine cs).all isBlank = false := by
  rw [lastLine, List.all_reverse]
  exact all_isBlank_firstLine (by rwa [List.head?_reverse]) h

theorem exists_head?_writtenEvents {joined : Bool} {event : Event} {rest : List Event}
    (h : StandApart joined (event :: rest)) :
    ∃ c ∈ (writtenEvents (event :: rest)).head?, isBlank c = false := by
  cases event with
  | text content =>
    obtain ⟨-, ⟨hn, hh, -⟩, -⟩ := h
    obtain ⟨c, cs, hc⟩ := List.exists_cons_of_ne_nil hn
    rw [hc] at hh
    refine ⟨c, ?_, hh c rfl⟩
    rw [writtenEvents, hc]
    rfl
  | tag mark =>
    refine ⟨'{', ?_, rfl⟩
    rw [writtenEvents, Tag.toList_print]
    rfl

/-- No blank stands behind a tag, so that it has the rest of its line to itself only at the end of the
text. -/
theorem eq_nil_of_blankAfter {events : List Event} (h : StandApart false events)
    (hb : blankAfter (.outside (writtenEvents events)) = true) : events = [] := by
  rw [blankAfter_eq, Pieces.text_outside, all_isBlank_throughNewline] at hb
  cases events with
  | nil => rfl
  | cons event rest =>
    obtain ⟨c, hc, hn⟩ := exists_head?_writtenEvents h
    rw [all_isBlank_firstLine hc hn] at hb
    cases hb

def IsGap (cs : List Char) : Prop := cs = [] ∨ IsSolid cs

namespace IsGap

variable {cs : List Char}

theorem not_openBraces_isInfix (h : IsGap cs) : ¬ openBraces <:+: cs := by
  obtain rfl | ⟨-, -, -, -, h⟩ := h
  · decide
  · exact h

theorem not_openBraces_isInfix_concat (h : IsGap cs) : ¬ openBraces <:+: cs ++ ['{'] := by
  obtain rfl | ⟨-, -, -, hl, h⟩ := h
  · decide
  · exact Template.not_openBraces_isInfix_concat hl h

theorem eq_nil_of_blankBefore (h : IsGap cs) {atStart : Bool} (hb : blankBefore atStart cs = true) :
    cs = [] := by
  obtain h | ⟨hn, -, hl, -⟩ := h
  · exact h
  · rw [blankBefore, Bool.and_eq_true] at hb
    have hc : cs.getLast hn ∈ cs.getLast? := List.getLast?_eq_some_getLast hn
    rw [all_isBlank_lastLine hc (hl _ hc)] at hb
    cases hb.2

end IsGap

theorem eq_nil_of_alone {atStart : Bool} {mark : Tag} {cs : List Char} {rest : List Event}
    (hc : IsGap cs) (hr : StandApart false rest)
    (h : (!mark.isValue && blankBefore atStart cs &&
      blankAfter (.outside (writtenEvents rest))) = true) : cs = [] ∧ rest = [] := by
  rw [Bool.and_eq_true, Bool.and_eq_true] at h
  exact ⟨hc.eq_nil_of_blankBefore h.1.2, eq_nil_of_blankAfter hr h.2⟩

theorem keptGap_eq_self {dropFirst dropLast : Bool} {cs : List Char}
    (h : dropFirst = true ∨ dropLast = true → cs = []) : keptGap dropFirst dropLast cs = cs := by
  cases dropFirst <;> cases dropLast <;> simp_all [keptGap, afterFirstLine, beforeLastLine]

theorem event?_ofPieces_written (events : List Event) (atStart dropFirst joined : Bool)
    (offset : Nat) (cs : List Char) (h : StandApart joined events) (hc : IsGap cs)
    (hj : joined = false → cs = []) (hd : dropFirst = true → cs = [] ∧ events = []) :
    (Token.ofPieces atStart dropFirst offset (.outside (cs ++ writtenEvents events))).map
      Token.event? = (gapEvents cs ++ events).map some := by
  -- A text goes to `cs` and becomes a gap at the next tag or at the end. No margin is taken off it, as
  -- a tag that is alone on its line has nothing beside it at all.
  induction events generalizing atStart dropFirst joined offset cs with
  | nil =>
    have hk : keptGap dropFirst false cs = cs :=
      keptGap_eq_self fun hor => (hd (hor.resolve_right Bool.false_ne_true)).1
    rw [writtenEvents, List.append_nil, List.append_nil,
      Pieces.outside_last hc.not_openBraces_isInfix, Token.ofPieces, event?_ofGap, hk]
  | cons event rest ih =>
    have hf : dropFirst = false := by
      cases dropFirst with
      | false => rfl
      | true => cases (hd rfl).2
    subst hf
    cases event with
    | text content =>
      obtain ⟨rfl, hs, hr⟩ := h
      have hg : gapEvents content.toList = [.text content] := by
        rw [gapEvents, if_neg (by simpa using hs.1), String.ofList_toList]
      have hn := ih atStart false true offset content.toList hr (.inr hs)
        (fun h => (Bool.false_ne_true h.symm).elim) (fun h => (Bool.false_ne_true h).elim)
      rw [hj rfl, writtenEvents, List.nil_append, hn, hg]
      rfl
    | tag mark =>
      obtain ⟨hw, hr⟩ := h
      have hs : cs ++ writtenEvents (.tag mark :: rest) =
          cs ++ openBraces ++ (mark.written ++ closeBraces ++ writtenEvents rest) := by
        simp [writtenEvents, Tag.toList_print]
      rw [hs, Pieces.outside_written hc.not_openBraces_isInfix_concat (Tag.written_isInfix hw),
        Token.ofPieces, Tag.read_written hw]
      generalize ha : (!mark.isValue && blankBefore atStart cs &&
        blankAfter (.outside (writtenEvents rest))) = alone
      have hnil : alone = true → cs = [] ∧ rest = [] := fun h =>
        eq_nil_of_alone hc hr (ha.trans h)
      have hk : keptGap false alone cs = cs :=
        keptGap_eq_self fun hor => (hnil (hor.resolve_left Bool.false_ne_true)).1
      have hn := fun offset => ih false alone false offset [] hr (.inl rfl) (fun _ => rfl)
        fun h => ⟨rfl, (hnil h).2⟩
      simp only [List.nil_append] at hn
      simp only [ha, List.map_append, List.map_cons, event?_ofGap, hk, hn]
      rfl

/-- A tree that can be printed is what its printed form is parsed as. -/
theorem parse_printNodes {nodes : List Node} (h : ArePrintable nodes) :
    parse (printNodes nodes) = .ok nodes := by
  have ha : StandApart false (readNodes nodes ++ []) :=
    standApart_readNodes nodes h (fun _ _ _ => rfl) fun _ => trivial
  rw [List.append_nil] at ha
  rw [parse_eq_ok_iff, Token.scan, toList_printNodes]
  exact event?_ofPieces_written _ true false false 0 [] ha (.inl rfl) (fun _ => rfl)
    fun h => (Bool.false_ne_true h).elim

/-- A list within braces: an include whose name holds braces and a line break, a text that begins
with a brace, and another that holds closing ones. -/
theorem parse_printNodes_braces :
    let nodes := [.text ("a\n" ++ r"{b}}"), .block .each "xs"
      [.value "y", .text r"}", .inclusion ("to\n" ++ r"}{{ f}")], .inclusion "n"]
    ArePrintable nodes ∧ parse (printNodes nodes) = .ok nodes := by
  intro nodes
  have hp : ArePrintable nodes := by decide +kernel
  exact ⟨hp, parse_printNodes hp⟩

end PointerHelpers.Template
