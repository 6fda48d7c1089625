import PointerHelpers.Template.Token

namespace PointerHelpers.Template

def openBraces : List Char := ['{', '{']

def closeBraces : List Char := ['}', '}']

theorem byteLength_append (cs ds : List Char) :
    byteLength (cs ++ ds) = byteLength cs + byteLength ds :=
  Text.total_append Char.utf8Size cs ds

theorem byteLength_openBraces : byteLength openBraces = 2 := rfl

theorem byteLength_closeBraces : byteLength closeBraces = 2 := rfl

theorem byteLength_eq_utf8ByteSize (cs : List Char) :
    byteLength cs = (String.ofList cs).utf8ByteSize := by
  induction cs with
  | nil => rfl
  | cons c cs ih =>
    have hs : String.ofList (c :: cs) = String.singleton c ++ String.ofList cs := by
      rw [String.singleton_eq_ofList, ← String.ofList_append, List.singleton_append]
    rw [hs, String.utf8ByteSize_append, String.utf8ByteSize_singleton, ← ih]
    rfl

theorem utf8ByteSize_eq_byteLength (text : String) :
    text.utf8ByteSize = byteLength text.toList := by
  rw [byteLength_eq_utf8ByteSize, String.ofList_toList]

theorem isValid_byteLength {text : String} {before after : List Char}
    (h : text.toList = before ++ after) :
    (String.Pos.Raw.mk (byteLength before)).IsValid text := by
  rw [String.Pos.Raw.isValid_iff_exists_append]
  refine ⟨.ofList before, .ofList after, ?_, ?_⟩
  · rw [← String.ofList_append, ← h, String.ofList_toList]
  · rw [byteLength_eq_utf8ByteSize]
    rfl

structure FirstAt (delimiter text before after : List Char) : Prop where
  text_eq : text = before ++ delimiter ++ after
  least : ∀ before' after', text = before' ++ delimiter ++ after' → before.length ≤ before'.length

theorem byteLength_le_utf8ByteSize {text : String} {before after : List Char}
    (h : text.toList = before ++ after) : byteLength before ≤ text.utf8ByteSize := by
  rw [utf8ByteSize_eq_byteLength, h, byteLength_append]
  exact Nat.le_add_right _ _

/-- A tag of a text, with all that stands before it and after it. A tag that is not closed goes on to
the end of the text. -/
structure Occurrence where
  before : List Char
  content : List Char
  closed : Bool
  after : List Char

namespace Occurrence

def source (found : Occurrence) : List Char :=
  openBraces ++ found.content ++ if found.closed then closeBraces else []

def span (found : Occurrence) : Span :=
  ⟨byteLength found.before, byteLength found.before + byteLength found.source⟩

theorem span_of_unclosed (before content : List Char) :
    span ⟨before, content, false, []⟩ =
      ⟨byteLength before, byteLength before + 2 + byteLength content⟩ := by
  simp only [span, source, byteLength_append, byteLength_openBraces, Bool.false_eq_true, if_false,
    List.append_nil, Nat.add_assoc]

theorem span_of_closed (before content after : List Char) :
    span ⟨before, content, true, after⟩ =
      ⟨byteLength before, byteLength before + 2 + byteLength content + 2⟩ := by
  simp only [span, source, byteLength_append, byteLength_openBraces, byteLength_closeBraces,
    if_true, Nat.add_assoc]

theorem span_stop (found : Occurrence) :
    found.span.stop = byteLength (found.before ++ found.source) :=
  (byteLength_append _ _).symm

theorem span_valid (found : Occurrence) {text : String}
    (h : found.before ++ found.source ++ found.after = text.toList) :
    found.span.start < found.span.stop ∧ found.span.stop ≤ text.utf8ByteSize ∧
      (String.Pos.Raw.mk found.span.start).IsValid text ∧
      (String.Pos.Raw.mk found.span.stop).IsValid text := by
  have hpos : 0 < byteLength found.source := by
    rw [source, byteLength_append, byteLength_append, byteLength_openBraces]
    omega
  refine ⟨Nat.lt_add_of_pos_right hpos, ?_, ?_, ?_⟩
  · rw [span_stop]
    exact byteLength_le_utf8ByteSize h.symm
  · exact isValid_byteLength (h.symm.trans (List.append_assoc _ _ _))
  · rw [span_stop]
    exact isValid_byteLength h.symm

end Occurrence

/-- The tags of a text from left to right, for the part of the text that is read and the rest. -/
inductive Scans : List Char → List Char → List Occurrence → Prop
  | last {read rest : List Char} (none : ¬ openBraces <:+: rest) : Scans read rest []
  | unterminated {read rest gap content : List Char} (opening : FirstAt openBraces rest gap content)
      (none : ¬ closeBraces <:+: content) :
      Scans read rest [⟨read ++ gap, content, false, []⟩]
  | tag {read rest gap inner content after : List Char} {tags : List Occurrence}
      (opening : FirstAt openBraces rest gap inner) (closing : FirstAt closeBraces inner content after)
      (next : Scans (read ++ gap ++ openBraces ++ content ++ closeBraces) after tags) :
      Scans read rest (⟨read ++ gap, content, true, after⟩ :: tags)

namespace FirstAt

theorem of_cons {delimiter before after : List Char} {c : Char} {text : List Char}
    (h : FirstAt delimiter (c :: text) (c :: before) after) :
    FirstAt delimiter text before after := by
  refine ⟨List.cons_inj_right c |>.mp h.text_eq, fun before' after' he => ?_⟩
  have hl := h.least (c :: before') after' (by rw [he]; rfl)
  simpa using hl

theorem of_append {delimiter before after text cs : List Char}
    (h : FirstAt delimiter (cs ++ text) (cs ++ before) after) :
    FirstAt delimiter text before after := by
  induction cs with
  | nil => exact h
  | cons c cs ih => exact ih h.of_cons

theorem cons {delimiter text before after : List Char} {c : Char}
    (h : FirstAt delimiter text before after) (hc : ¬ delimiter <+: c :: text) :
    FirstAt delimiter (c :: text) (c :: before) after := by
  refine ⟨by rw [h.text_eq]; rfl, fun before' after' he => ?_⟩
  cases before' with
  | nil => exact absurd ⟨after', he.symm⟩ hc
  | cons d before' =>
    have hl := h.least before' after' (List.cons.inj he).2
    simpa using hl

theorem nil (delimiter after : List Char) : FirstAt delimiter (delimiter ++ after) [] after :=
  ⟨rfl, fun _ _ _ => Nat.zero_le _⟩

theorem append {delimiter text before after : List Char} (h : FirstAt delimiter text before after)
    (rest : List Char) : FirstAt delimiter (text ++ rest) before (after ++ rest) := by
  refine ⟨by rw [h.text_eq, List.append_assoc], fun before' after' he => ?_⟩
  refine Nat.le_of_not_lt fun hl => ?_
  have hlen : (before' ++ delimiter).length ≤ text.length := by
    rw [h.text_eq]
    simp only [List.length_append]
    omega
  obtain ⟨after'', he'⟩ : before' ++ delimiter <+: text :=
    List.prefix_of_prefix_length_le ⟨after', he.symm⟩ (List.prefix_append text rest) hlen
  exact Nat.not_le_of_lt hl (h.least before' after'' he'.symm)

theorem not_isInfix {delimiter text before after : List Char}
    (h : FirstAt delimiter text before after) (hd : delimiter ≠ []) : ¬ delimiter <:+: before := by
  rintro ⟨front, back, he⟩
  have hl := h.least front (back ++ delimiter ++ after) (by rw [h.text_eq, ← he]; simp)
  have hpos := List.length_pos_iff.mpr hd
  simp only [← he, List.length_append] at hl
  omega

theorem getLast?_after {delimiter text before after : List Char} {d : Char}
    (h : FirstAt delimiter text before after) (hd : delimiter.getLast? = some d)
    (ht : text.getLast? ≠ some d) : after.getLast? = text.getLast? := by
  rw [h.text_eq, List.getLast?_append] at ht ⊢
  cases ha : after.getLast? with
  | none =>
    rw [ha, List.getLast?_append, hd] at ht
    exact absurd rfl ht
  | some c => rfl

end FirstAt

/-- A delimiter of two equal characters is first after a text that does not hold it, not even
together with the first of the two. -/
theorem firstAt_pair {d : Char} {before : List Char} (h : ¬ [d, d] <:+: before ++ [d])
    (after : List Char) : FirstAt [d, d] (before ++ [d, d] ++ after) before after := by
  induction before with
  | nil => exact FirstAt.nil _ _
  | cons c before ih =>
    refine (ih fun hi => h (List.infix_cons hi)).cons fun hp => h ?_
    obtain ⟨rest, he⟩ := hp
    cases before with
    | nil =>
      simp only [List.nil_append, List.cons_append, List.cons.injEq] at he
      rw [← he.1]
      exact List.infix_refl _
    | cons b before =>
      simp only [List.nil_append, List.cons_append, List.cons.injEq] at he
      rw [← he.1, ← he.2.1]
      exact ⟨[], before ++ [d], rfl⟩

theorem not_openBraces_isInfix_concat {text : List Char} (hl : text.getLast? ≠ some '{')
    (h : ¬ openBraces <:+: text) : ¬ openBraces <:+: text ++ ['{'] := by
  rw [List.infix_concat_iff]
  rintro (⟨before, he⟩ | hi)
  · have hb : (before ++ ['{']) ++ ['{'] = text ++ ['{'] := by
      rw [← he, List.append_assoc]
      rfl
    rw [← List.append_cancel_right hb] at hl
    exact hl List.getLast?_concat
  · exact h hi

theorem exists_firstAt_or_not_isInfix (delimiter text : List Char) :
    (∃ before after, FirstAt delimiter text before after) ∨ ¬ delimiter <:+: text := by
  induction text with
  | nil =>
    by_cases hd : delimiter = []
    · subst hd
      exact .inl ⟨[], [], FirstAt.nil _ _⟩
    · exact .inr fun h => hd (List.infix_nil.mp h)
  | cons c text ih =>
    by_cases hp : delimiter <+: c :: text
    · obtain ⟨after, he⟩ := hp
      rw [← he]
      exact .inl ⟨[], after, FirstAt.nil _ _⟩
    obtain ⟨before, after, h⟩ | h := ih
    · exact .inl ⟨c :: before, after, h.cons hp⟩
    · exact .inr fun hi => (List.infix_cons_iff.mp hi).elim hp h

namespace Pieces

theorem outside_induction {motive : List Char → Prop}
    (last : ∀ text, ¬ openBraces <:+: text → motive text)
    (unterminated : ∀ text gap content, FirstAt openBraces text gap content →
      ¬ closeBraces <:+: content → motive text)
    (tag : ∀ text gap inner content after, FirstAt openBraces text gap inner →
      FirstAt closeBraces inner content after → motive after → motive text)
    (text : List Char) : motive text := by
  obtain ⟨gap, inner, ho⟩ | hn := exists_firstAt_or_not_isInfix openBraces text
  · obtain ⟨content, after, hc⟩ | hn := exists_firstAt_or_not_isInfix closeBraces inner
    · have hlt : after.length < text.length := by
        rw [ho.text_eq, hc.text_eq]
        simp only [List.length_append, openBraces, closeBraces, List.length_cons, List.length_nil]
        omega
      exact tag text gap inner content after ho hc
        (outside_induction last unterminated tag after)
    · exact unterminated text gap inner ho hn
  · exact last text hn
termination_by text.length

theorem outside_cons {c : Char} {cs : List Char} (h : ¬ openBraces <+: c :: cs) :
    outside (c :: cs) = consGap c (outside cs) := by
  rw [outside]
  rintro cs' rfl rfl
  exact h ⟨cs', rfl⟩

theorem inside_cons {c : Char} {cs : List Char} (h : ¬ closeBraces <+: c :: cs) :
    inside (c :: cs) = consContent c (inside cs) := by
  rw [inside]
  rintro cs' rfl rfl
  exact h ⟨cs', rfl⟩

theorem outside_last {text : List Char} (h : ¬ openBraces <:+: text) :
    outside text = .last text := by
  induction text with
  | nil => rfl
  | cons c cs ih =>
    rw [outside_cons fun hp => h hp.isInfix, ih fun hi => h (List.infix_cons hi)]
    rfl

theorem inside_last {content : List Char} (h : ¬ closeBraces <:+: content) :
    inside content = .unterminated [] content := by
  induction content with
  | nil => rfl
  | cons c cs ih =>
    rw [inside_cons fun hp => h hp.isInfix, ih fun hi => h (List.infix_cons hi)]
    rfl

theorem not_isPrefix_of_firstAt_cons {delimiter text before after : List Char} {c : Char}
    (h : FirstAt delimiter text (c :: before) after) : ¬ delimiter <+: text := by
  rintro ⟨rest, he⟩
  have hl := h.least [] rest he.symm
  simp at hl

def prepend (cs : List Char) : Pieces → Pieces
  | .last gap => .last (cs ++ gap)
  | .unterminated gap content => .unterminated (cs ++ gap) content
  | .tag gap content next => .tag (cs ++ gap) content next

theorem prepend_nil (pieces : Pieces) : pieces.prepend [] = pieces := by
  cases pieces <;> rfl

theorem prepend_cons (c : Char) (cs : List Char) (pieces : Pieces) :
    pieces.prepend (c :: cs) = consGap c (pieces.prepend cs) := by
  cases pieces <;> rfl

theorem outside_of_firstAt {text gap inner : List Char} (h : FirstAt openBraces text gap inner) :
    outside text = (inside inner).prepend gap := by
  induction gap generalizing text with
  | nil =>
    rw [h.text_eq, prepend_nil]
    rfl
  | cons c gap ih =>
    obtain ⟨cs, rfl⟩ : ∃ cs, text = c :: cs := ⟨_, h.text_eq⟩
    rw [outside_cons (not_isPrefix_of_firstAt_cons h), ih h.of_cons, prepend_cons]

/-- A text that opens no tag, not even together with what is behind it, goes to the first gap. -/
theorem outside_append {cs : List Char} (h : ¬ openBraces <:+: cs ++ ['{']) (rest : List Char) :
    outside (cs ++ rest) = (outside rest).prepend cs := by
  induction cs with
  | nil => rw [prepend_nil, List.nil_append]
  | cons c cs ih =>
    have hp : ¬ openBraces <+: c :: (cs ++ rest) := by
      intro hp
      rw [openBraces, List.cons_prefix_cons] at hp
      obtain ⟨rfl, hp⟩ := hp
      cases cs with
      | nil => exact h (List.infix_refl _)
      | cons d cs =>
        rw [List.cons_append, List.cons_prefix_cons] at hp
        obtain ⟨rfl, -⟩ := hp
        exact h ⟨[], cs ++ ['{'], rfl⟩
    rw [List.cons_append, outside_cons hp, ih fun hi => h (List.infix_cons hi), prepend_cons]

theorem inside_of_firstAt {inner content after : List Char}
    (h : FirstAt closeBraces inner content after) :
    inside inner = .tag [] content (outside after) := by
  induction content generalizing inner with
  | nil =>
    rw [h.text_eq]
    rfl
  | cons c content ih =>
    obtain ⟨cs, rfl⟩ : ∃ cs, inner = c :: cs := ⟨_, h.text_eq⟩
    rw [inside_cons (not_isPrefix_of_firstAt_cons h), ih h.of_cons, consContent]

theorem outside_unterminated {text gap content : List Char}
    (ho : FirstAt openBraces text gap content) (hn : ¬ closeBraces <:+: content) :
    outside text = .unterminated gap content := by
  rw [outside_of_firstAt ho, inside_last hn, prepend, List.append_nil]

theorem outside_tag {text gap inner content after : List Char}
    (ho : FirstAt openBraces text gap inner) (hc : FirstAt closeBraces inner content after) :
    outside text = .tag gap content (outside after) := by
  rw [outside_of_firstAt ho, inside_of_firstAt hc, prepend, List.append_nil]

theorem outside_written {gap content : List Char} (hg : ¬ openBraces <:+: gap ++ ['{'])
    (hc : ¬ closeBraces <:+: content ++ ['}']) (rest : List Char) :
    outside (gap ++ openBraces ++ (content ++ closeBraces ++ rest)) =
      .tag gap content (outside rest) :=
  outside_tag (firstAt_pair hg _) (firstAt_pair hc _)

def text : Pieces → List Char
  | .last gap => gap
  | .unterminated gap content => gap ++ openBraces ++ content
  | .tag gap content next => gap ++ openBraces ++ content ++ closeBraces ++ next.text

theorem text_outside (cs : List Char) : (outside cs).text = cs := by
  induction cs using outside_induction with
  | last cs h => rw [outside_last h, text]
  | unterminated cs gap content ho hn => rw [outside_unterminated ho hn, text, ho.text_eq]
  | tag cs gap inner content after ho hc ih =>
    rw [outside_tag ho hc, text, ih, ho.text_eq, hc.text_eq]
    simp only [List.append_assoc]

def occurrences (read : List Char) : Pieces → List Occurrence
  | .last _ => []
  | .unterminated gap content => [⟨read ++ gap, content, false, []⟩]
  | .tag gap content next =>
    ⟨read ++ gap, content, true, next.text⟩ ::
      next.occurrences (read ++ gap ++ openBraces ++ content ++ closeBraces)

theorem scans_iff (read rest : List Char) (tags : List Occurrence) :
    Scans read rest tags ↔ tags = (outside rest).occurrences read := by
  constructor
  · intro h
    induction h with
    | last hn => rw [outside_last hn, occurrences]
    | unterminated ho hn => rw [outside_unterminated ho hn, occurrences]
    | tag ho hc _ ih => rw [outside_tag ho hc, occurrences, text_outside, ih]
  · rintro rfl
    induction rest using outside_induction generalizing read with
    | last rest hn =>
      rw [outside_last hn]
      exact .last hn
    | unterminated rest gap content ho hn =>
      rw [outside_unterminated ho hn]
      exact .unterminated ho hn
    | tag rest gap inner content after ho hc ih =>
      rw [outside_tag ho hc, occurrences, text_outside]
      exact .tag ho hc (ih _)

theorem text_of_mem_occurrences {pieces : Pieces} {read : List Char} {found : Occurrence}
    (h : found ∈ pieces.occurrences read) :
    found.before ++ found.source ++ found.after = read ++ pieces.text := by
  induction pieces generalizing read with
  | last gap => simp [occurrences] at h
  | unterminated gap content =>
    rw [occurrences, List.mem_singleton] at h
    subst h
    simp [Occurrence.source, text]
  | tag gap content next ih =>
    rw [occurrences, List.mem_cons] at h
    obtain rfl | h := h
    · simp [Occurrence.source, text]
    · rw [ih h]
      simp [text]

end Pieces

end PointerHelpers.Template
