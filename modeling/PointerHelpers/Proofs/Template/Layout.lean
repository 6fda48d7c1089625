import PointerHelpers.Proofs.Template.Margins
import PointerHelpers.Proofs.Text.Identifier
import PointerHelpers.Template.TemplateSet

namespace PointerHelpers.Template

open Text

namespace Tag

def content : Tag → List Char
  | .value name => name.toList
  | .inclusion template => '>' :: ' ' :: template.toList
  | .opening kind name => '#' :: (kind.keyword.toList ++ ' ' :: name.toList)
  | .closing keyword => '/' :: keyword.toList

def IsProper : Tag → Prop
  | .value name | .opening _ name => isIdentifier name.toList = true
  | .inclusion template =>
    template.toList ≠ [] ∧ trim template.toList = template.toList ∧
      ¬ closeBraces <:+: template.toList ++ ['}']
  | .closing keyword => keyword = Block.each.keyword ∨ keyword = Block.when.keyword

instance : DecidablePred IsProper
  | .value name => inferInstanceAs (Decidable (isIdentifier name.toList = true))
  | .opening _ name => inferInstanceAs (Decidable (isIdentifier name.toList = true))
  | .inclusion template => inferInstanceAs (Decidable (template.toList ≠ [] ∧
      trim template.toList = template.toList ∧ ¬ closeBraces <:+: template.toList ++ ['}']))
  | .closing keyword => inferInstanceAs (Decidable
      (keyword = Block.each.keyword ∨ keyword = Block.when.keyword))

theorem trim_mark_append (mark : Char) (hm : isWhite mark = false) (cs : List Char)
    {name : List Char} (hn : name ≠ []) (hl : ∀ c ∈ name.getLast?, isWhite c = false) :
    trim (mark :: (cs ++ name)) = mark :: (cs ++ name) := by
  apply trim_eq_self
  · simpa using hm
  · rw [← List.cons_append, List.getLast?_append_of_ne_nil _ hn]
    exact hl

theorem read_inclusion {template : String} (hn : template.toList ≠ [])
    (ht : trim template.toList = template.toList) :
    read ('>' :: ' ' :: template.toList) = .ok (.inclusion template) := by
  have hl : ∀ c ∈ template.toList.getLast?, isWhite c = false := by
    rw [← ht]
    exact isWhite_of_mem_getLast?_trim
  have hm : trim ('>' :: ' ' :: template.toList) = '>' :: ' ' :: template.toList :=
    trim_mark_append '>' (by decide) [' '] hn hl
  have hr : trim (' ' :: template.toList) = template.toList := by
    rw [trim_cons_of_isWhite (by decide), ht]
  have hs := Says.inclusion hm (by rwa [hr])
  rw [hr, String.ofList_toList] at hs
  exact (read_eq_ok_iff _ _).mpr hs

theorem read_content {mark : Tag} (h : mark.IsProper) : read mark.content = .ok mark := by
  cases mark with
  | value name =>
    have ht : trim name.toList = name.toList := trim_of_isIdentifier h
    have hs : Says name.toList (.value (.ofList (trim name.toList))) := .value (by rwa [ht])
    rw [ht, String.ofList_toList] at hs
    exact (read_eq_ok_iff _ _).mpr hs
  | inclusion template =>
    obtain ⟨hne, ht, -⟩ := h
    exact read_inclusion hne ht
  | opening kind name =>
    have ht : trim name.toList = name.toList := trim_of_isIdentifier h
    have hne : name.toList ≠ [] := by
      intro he
      rw [IsProper, he] at h
      cases h
    have hl : ∀ c ∈ name.toList.getLast?, isWhite c = false := by
      rw [← ht]
      exact isWhite_of_mem_getLast?_trim
    have hm := trim_mark_append '#' (by decide) (kind.keyword.toList ++ [' ']) hne hl
    rw [List.append_assoc, List.singleton_append] at hm
    have hs := Says.opening hm (by decide) (by rwa [ht])
    rw [ht, String.ofList_toList] at hs
    exact (read_eq_ok_iff _ _).mpr hs
  | closing keyword => obtain rfl | rfl := h <;> rfl

theorem not_closeBraces_isInfix {cs : List Char} (h : '}' ∉ cs) : ¬ closeBraces <:+: cs ++ ['}'] := by
  intro hi
  have hc := hi.sublist.count_le '}'
  rw [List.count_append, List.count_eq_zero_of_not_mem h] at hc
  simp [closeBraces] at hc

theorem not_closeBraces_isInfix_cons {c : Char} (hc : c ≠ '}') {cs : List Char}
    (h : ¬ closeBraces <:+: cs) : ¬ closeBraces <:+: c :: cs := by
  rw [List.infix_cons_iff, closeBraces, List.cons_prefix_cons]
  rintro (⟨he, -⟩ | hi)
  · exact hc he.symm
  · exact h hi

theorem content_isInfix {mark : Tag} (h : mark.IsProper) :
    ¬ closeBraces <:+: mark.content ++ ['}'] := by
  cases mark with
  | value name => exact not_closeBraces_isInfix (not_mem_of_isIdentifier h (by decide))
  | opening kind name =>
    apply not_closeBraces_isInfix
    have hn : '}' ∉ name.toList := not_mem_of_isIdentifier h (by decide)
    cases kind <;> simp [content, Block.keyword, hn]
  | inclusion template =>
    exact not_closeBraces_isInfix_cons (by decide) (not_closeBraces_isInfix_cons (by decide) h.2.2)
  | closing keyword =>
    apply not_closeBraces_isInfix
    obtain rfl | rfl := h <;> decide

/-- A value stands within its line; every other tag has a line of its own. -/
def layout (mark : Tag) : List Char :=
  openBraces ++ mark.content ++ closeBraces ++ if !mark.isValue then ['\n'] else []

end Tag

def layoutEvents : List Event → List Char
  | [] => []
  | .text content :: rest => content.toList ++ layoutEvents rest
  | .tag mark :: rest => mark.layout ++ layoutEvents rest

def layout (nodes : List Node) : String := .ofList (layoutEvents (readNodes nodes))

/-- Texts and tags that can be told apart again: the texts are not empty, are no two beside one another
and open no tag, and the tags that have their own lines come at the beginnings of lines. The flags say
whether a line begins here and whether the event before is a text. -/
def IsLaid (line joined : Bool) : List Event → Prop
  | [] => True
  | .text content :: rest =>
    joined = false ∧ content.toList ≠ [] ∧ ¬ openBraces <:+: content.toList ++ ['{'] ∧
      IsLaid (content.toList.getLast? == some '\n') true rest
  | .tag mark :: rest =>
    mark.IsProper ∧ (mark.isValue || line) = true ∧ IsLaid (!mark.isValue) false rest

instance decidableIsLaid (line joined : Bool) : (events : List Event) →
    Decidable (IsLaid line joined events)
  | [] => inferInstanceAs (Decidable True)
  | .text content :: rest =>
    have := decidableIsLaid (content.toList.getLast? == some '\n') true rest
    inferInstanceAs (Decidable (joined = false ∧ content.toList ≠ [] ∧
      ¬ openBraces <:+: content.toList ++ ['{'] ∧ IsLaid _ true rest))
  | .tag mark :: rest =>
    have := decidableIsLaid (!mark.isValue) false rest
    inferInstanceAs (Decidable
      (mark.IsProper ∧ (mark.isValue || line) = true ∧ IsLaid _ false rest))

theorem keptGap_layout {dropFirst dropLast : Bool} {cs : List Char}
    (h : dropLast = true → lastLine cs = []) :
    keptGap dropFirst dropLast ((if dropFirst then ['\n'] else []) ++ cs) = cs := by
  have hl : dropLast = true → beforeLastLine cs = cs := by
    intro hd
    have he := beforeLastLine_append_lastLine cs
    rwa [h hd, List.append_nil] at he
  have hf : afterFirstLine ('\n' :: cs) = cs :=
    afterFirstLine_append_newline List.not_mem_nil cs
  cases dropFirst <;> cases dropLast <;> simp_all [keptGap]

theorem blankBefore_layout {atStart dropFirst : Bool} {cs : List Char} (hl : lastLine cs = [])
    (h : atStart = true ∨ dropFirst = true ∨ '\n' ∈ cs) :
    blankBefore atStart ((if dropFirst then ['\n'] else []) ++ cs) = true := by
  have he : lastLine ((if dropFirst then ['\n'] else []) ++ cs) = [] := by
    cases dropFirst with
    | false => exact hl
    | true => exact (lastLine_append_newline [] cs).trans hl
  rw [blankBefore, he]
  obtain rfl | rfl | h := h <;> simp [*]

theorem blankAfter_newline (rest : List Char) : blankAfter (.outside ('\n' :: rest)) = true := by
  rw [blankAfter_eq, Pieces.text_outside]
  have ht : throughNewline ('\n' :: rest) = ['\n'] :=
    throughNewline_append_newline List.not_mem_nil rest
  rw [ht]
  rfl

theorem not_openBraces_isInfix (dropFirst : Bool) {cs : List Char} (h : ¬ openBraces <:+: cs ++ ['{']) :
    ¬ openBraces <:+: (if dropFirst then ['\n'] else []) ++ cs ++ ['{'] := by
  cases dropFirst with
  | false => exact h
  | true =>
    intro hi
    obtain hp | hi := List.infix_cons_iff.mp hi
    · simp [openBraces] at hp
    · exact h hi

/-- A tag is found where it was written, with the newline after it in the gap that follows. -/
theorem outside_layoutEvents_tag {mark : Tag} (hp : mark.IsProper) {gap : List Char}
    (hg : ¬ openBraces <:+: gap ++ ['{']) (rest : List Event) :
    Pieces.outside (gap ++ layoutEvents (.tag mark :: rest)) =
      .tag gap mark.content
        (.outside ((if !mark.isValue then ['\n'] else []) ++ [] ++ layoutEvents rest)) := by
  have hs : gap ++ layoutEvents (.tag mark :: rest) = gap ++ openBraces ++
      (mark.content ++ closeBraces ++
        ((if !mark.isValue then ['\n'] else []) ++ [] ++ layoutEvents rest)) := by
    simp [layoutEvents, Tag.layout]
  rw [hs]
  exact Pieces.outside_written hg (Tag.content_isInfix hp) _

theorem alone_layout {atStart dropFirst : Bool} {cs : List Char} (mark : Tag) (rest : List Char)
    (h : mark.isValue = false →
      lastLine cs = [] ∧ (atStart = true ∨ dropFirst = true ∨ '\n' ∈ cs)) :
    (!mark.isValue && blankBefore atStart ((if dropFirst then ['\n'] else []) ++ cs) &&
      blankAfter (.outside ((if !mark.isValue then ['\n'] else []) ++ [] ++ rest))) =
        !mark.isValue := by
  cases hm : mark.isValue with
  | true => rfl
  | false =>
    obtain ⟨hl, hb⟩ := h hm
    have ha : blankAfter (.outside ('\n' :: rest)) = true := blankAfter_newline rest
    rw [blankBefore_layout hl hb]
    exact ha

/-- The tokens of a laid out text are its events, for the text `cs` that is read since the last tag. -/
theorem event?_ofPieces_layout (events : List Event) (atStart dropFirst line joined : Bool)
    (offset : Nat) (cs : List Char) (he : IsLaid line joined events) (hj : joined = false → cs = [])
    (hl : line = true → lastLine cs = [] ∧ (atStart = true ∨ dropFirst = true ∨ '\n' ∈ cs))
    (hc : ¬ openBraces <:+: cs ++ ['{']) :
    (Token.ofPieces atStart dropFirst offset
      (.outside ((if dropFirst then ['\n'] else []) ++ cs ++ layoutEvents events))).map Token.event? =
      (gapEvents cs ++ events).map some := by
  -- A text goes to `cs` and becomes a gap at the next tag or at the end.
  induction events generalizing atStart dropFirst line joined offset cs with
  | nil =>
    have hg := not_openBraces_isInfix dropFirst hc
    have ho : ¬ openBraces <:+: (if dropFirst then ['\n'] else []) ++ cs :=
      fun hi => hg (hi.trans (List.prefix_append _ _).isInfix)
    have hk : keptGap dropFirst false ((if dropFirst then ['\n'] else []) ++ cs) = cs :=
      keptGap_layout fun h => by cases h
    rw [layoutEvents, List.append_nil, List.append_nil, Pieces.outside_last ho, Token.ofPieces,
      event?_ofGap, hk]
  | cons event rest ih =>
    cases event with
    | text content =>
      obtain ⟨rfl, hne, ho, hr⟩ := he
      have hcs : cs = [] := hj rfl
      have hg : gapEvents content.toList = [.text content] := by
        rw [gapEvents, if_neg (by simpa using hne), String.ofList_toList]
      have hn := ih atStart dropFirst _ true offset content.toList hr
        (fun h => (Bool.false_ne_true h.symm).elim) (fun h => by
          obtain ⟨hm, hn⟩ := lastLine_eq_nil_of_getLast? (beq_iff_eq.mp h)
          exact ⟨hn, .inr (.inr hm)⟩) ho
      rw [hcs, layoutEvents, List.append_nil, ← List.append_assoc, hn, hg]
      rfl
    | tag mark =>
      obtain ⟨hp, hv, hr⟩ := he
      have hlast : mark.isValue = false → lastLine cs = [] ∧
          (atStart = true ∨ dropFirst = true ∨ '\n' ∈ cs) := by
        intro h
        rw [h, Bool.false_or] at hv
        exact hl hv
      have ha := alone_layout mark (layoutEvents rest) hlast
      have hk : keptGap dropFirst (!mark.isValue) ((if dropFirst then ['\n'] else []) ++ cs) = cs :=
        keptGap_layout fun h => (hlast ((Bool.not_eq_true' _).mp h)).1
      have hn := fun offset => ih false (!mark.isValue) (!mark.isValue) false offset [] hr
        (fun _ => rfl) (fun h => ⟨rfl, .inr (.inl h)⟩) (by decide)
      rw [outside_layoutEvents_tag hp (not_openBraces_isInfix dropFirst hc), Token.ofPieces,
        Tag.read_content hp]
      simp only [ha, List.map_append, List.map_cons, event?_ofGap, hk]
      rw [hn]
      rfl

theorem parse_layout {nodes : List Node} (h : IsLaid true false (readNodes nodes)) :
    parse (layout nodes) = .ok nodes := by
  rw [parse_eq_ok_iff, Token.scan, layout, String.toList_ofList]
  exact event?_ofPieces_layout (readNodes nodes) true false true false 0 [] h (fun _ => rfl)
    (fun _ => ⟨rfl, .inl rfl⟩) (by decide)

theorem TemplateSet.defineAll_layout (templates : List (String × List Node)) (set : TemplateSet)
    (hn : (set.names ++ templates.map (·.1)).Nodup)
    (hl : ∀ template ∈ templates, IsLaid true false (readNodes template.2)) :
    set.defineAll (templates.map fun template => (template.1, layout template.2)) =
      .ok ⟨set.templates ++ templates⟩ := by
  induction templates generalizing set with
  | nil => rw [List.map_nil, defineAll, List.append_nil]
  | cons template rest ih =>
    obtain ⟨name, nodes⟩ := template
    rw [List.forall_mem_cons] at hl
    rw [List.map_cons] at hn
    have hc : set.contains name = false := by
      rw [contains, List.contains_eq_mem, decide_eq_false_iff_not]
      exact fun hm => (List.nodup_append.mp hn).2.2 name hm name List.mem_cons_self rfl
    have hd : set.define name (layout nodes) = .ok ⟨set.templates ++ [(name, nodes)]⟩ := by
      rw [define, hc, parse_layout hl.1]
      rfl
    have hr := ih ⟨set.templates ++ [(name, nodes)]⟩ (by simpa [names] using hn) hl.2
    rw [List.append_assoc, List.singleton_append] at hr
    rw [List.map_cons, defineAll, hd]
    exact hr

end PointerHelpers.Template
