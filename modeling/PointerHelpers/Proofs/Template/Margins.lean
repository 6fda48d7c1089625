import PointerHelpers.Proofs.Template.Grammar
import PointerHelpers.Proofs.Template.Lines
import PointerHelpers.Proofs.Template.Reading
import PointerHelpers.Template.Printer

namespace PointerHelpers.Template

namespace Occurrence

def lineBefore (found : Occurrence) : List Char := lastLine found.before

def lineAfter (found : Occurrence) : List Char := throughNewline found.after

/-- A tag other than a value is alone when the rest of its line is blank on both sides. -/
def isAlone (found : Occurrence) (tag : Tag) : Bool :=
  !tag.isValue && found.lineBefore.all isBlank && found.lineAfter.all isBlank

def marginBefore (found : Occurrence) (tag : Tag) : List Char :=
  if found.isAlone tag then found.lineBefore else []

def marginAfter (found : Occurrence) (tag : Tag) : List Char :=
  if found.isAlone tag then found.lineAfter else []

end Occurrence

def gapEvents (cs : List Char) : List Event :=
  if cs.isEmpty then [] else [.text (.ofList cs)]

/-- What is met in a tree are the tags of a text and, as one text each, what stands between them but
for the margins of the tags. The text begins with the margin of the tag before it. -/
inductive Keeps : List Char → List Char → List Occurrence → List Event → Prop
  | last {margin text kept : List Char} (split : text = margin ++ kept) :
      Keeps margin text [] (gapEvents kept)
  | tag {margin text kept : List Char} {found : Occurrence} {mark : Tag} {tags : List Occurrence}
      {next : List Event} (is : found.Is mark)
      (split : text = margin ++ kept ++ found.marginBefore mark ++ found.source ++ found.after)
      (keeps : Keeps (found.marginAfter mark) found.after tags next) :
      Keeps margin text (found :: tags) (gapEvents kept ++ .tag mark :: next)

theorem event?_ofGap (offset : Nat) (dropFirst dropLast : Bool) (gap : List Char) :
    (Token.ofGap offset dropFirst dropLast gap).map Token.event? =
      (gapEvents (keptGap dropFirst dropLast gap)).map some := by
  obtain ⟨span, he⟩ := ofGap_eq offset dropFirst dropLast gap
  rw [he, gapEvents]
  split <;> rfl

theorem filterMap_event?_ofGap (offset : Nat) (dropFirst dropLast : Bool) (gap : List Char) :
    (Token.ofGap offset dropFirst dropLast gap).filterMap Token.event? =
      gapEvents (keptGap dropFirst dropLast gap) := by
  have hm := congrArg (List.filterMap id) (event?_ofGap offset dropFirst dropLast gap)
  rw [List.filterMap_map, List.filterMap_map] at hm
  exact hm.trans List.filterMap_some

/-- Without a newline in the gap the line of a tag goes back to the brackets of the tag before it. -/
theorem blankBefore_eq {atStart : Bool} {read : List Char} (gap : List Char)
    (hs : atStart = true → read = []) (hr : atStart = false → ∃ cs, read = cs ++ closeBraces) :
    blankBefore atStart gap = (lastLine (read ++ gap)).all isBlank := by
  by_cases hm : '\n' ∈ gap
  · rw [lastLine_append_of_mem hm]
    simp [blankBefore, hm]
  · cases atStart with
    | true => simp [blankBefore, hs rfl]
    | false =>
      obtain ⟨cs, rfl⟩ := hr rfl
      have hn : '\n' ∉ closeBraces ++ gap := by simp [closeBraces, hm]
      rw [List.append_assoc, lastLine_append_of_not_mem hn]
      simp [blankBefore, hm, closeBraces, isBlank]

theorem lastLine_of_blankBefore {atStart : Bool} {read gap : List Char}
    (hs : atStart = true → read = []) (h : blankBefore atStart gap = true) :
    lastLine (read ++ gap) = lastLine gap := by
  rw [blankBefore, Bool.and_eq_true, Bool.or_eq_true, List.contains_iff_mem] at h
  obtain ha | hm := h.1
  · rw [hs ha, List.nil_append]
  · exact lastLine_append_of_mem hm read

theorem blankAfter_eq (next : Pieces) :
    blankAfter next = (throughNewline next.text).all isBlank := by
  have ho (gap rest : List Char) : (gap.contains '\n' && (firstLine gap).all isBlank) =
      (firstLine (gap ++ openBraces ++ rest)).all isBlank := by
    by_cases hm : '\n' ∈ gap
    · rw [List.append_assoc, firstLine_append_of_mem hm]
      simp [hm]
    · rw [List.append_assoc, firstLine_of_not_mem hm]
      simp [hm, openBraces, firstLine, isBlank]
  rw [all_isBlank_throughNewline]
  cases next with
  | last gap => rfl
  | unterminated gap content => exact ho gap content
  | tag gap content next =>
    rw [Pieces.text, List.append_assoc, List.append_assoc]
    exact ho gap _

theorem lastLine_afterFirstLine {gap : List Char} (h : '\n' ∈ gap) :
    lastLine (afterFirstLine gap) = lastLine gap := by
  obtain ⟨line, rest, rfl, hn⟩ := exists_line_of_mem h
  rw [afterFirstLine_append_newline hn, lastLine_append_newline]

/-- The margins of a gap at its two ends never meet: with both of them there is a newline between. -/
theorem keptGap_margins (dropFirst dropLast : Bool) (gap : List Char)
    (h : dropFirst = true → '\n' ∈ gap ∨ dropLast = false) :
    gap = (if dropFirst then throughNewline gap else []) ++ keptGap dropFirst dropLast gap ++
      (if dropLast then lastLine gap else []) := by
  cases dropFirst with
  | false =>
    cases dropLast with
    | false => simp [keptGap]
    | true => simp [keptGap, beforeLastLine_append_lastLine]
  | true =>
    cases dropLast with
    | false => simp [keptGap, throughNewline_append_afterFirstLine]
    | true =>
      have hm : '\n' ∈ gap := (h rfl).resolve_right (by simp)
      simp only [keptGap, if_true, List.append_assoc]
      rw [← lastLine_afterFirstLine hm, beforeLastLine_append_lastLine,
        throughNewline_append_afterFirstLine]

theorem newline_mem_of_blankAfter {gap content : List Char} {next : Pieces}
    (h : blankAfter (.tag gap content next) = true) : '\n' ∈ gap := by
  rw [blankAfter, Bool.and_eq_true, List.contains_iff_mem] at h
  exact h.1

theorem throughNewline_text_tag {gap : List Char} (h : '\n' ∈ gap) (content : List Char)
    (next : Pieces) : throughNewline (Pieces.tag gap content next).text = throughNewline gap := by
  rw [Pieces.text, List.append_assoc, List.append_assoc, List.append_assoc]
  exact throughNewline_append_of_mem h _

theorem isAlone_eq {atStart : Bool} {read : List Char} (gap content : List Char) (next : Pieces)
    (mark : Tag) (hs : atStart = true → read = [])
    (hr : atStart = false → ∃ cs, read = cs ++ closeBraces) :
    (!mark.isValue && blankBefore atStart gap && blankAfter next) =
      Occurrence.isAlone ⟨read ++ gap, content, true, next.text⟩ mark := by
  rw [blankBefore_eq gap hs hr, blankAfter_eq]
  rfl

theorem marginBefore_eq {atStart : Bool} {read : List Char} (gap content : List Char)
    (next : Pieces) (mark : Tag) (hs : atStart = true → read = [])
    (hr : atStart = false → ∃ cs, read = cs ++ closeBraces) :
    Occurrence.marginBefore ⟨read ++ gap, content, true, next.text⟩ mark =
      if Occurrence.isAlone ⟨read ++ gap, content, true, next.text⟩ mark then lastLine gap
      else [] := by
  rw [Occurrence.marginBefore, ← isAlone_eq gap content next mark hs hr]
  split
  · rename_i h
    rw [Bool.and_eq_true, Bool.and_eq_true] at h
    exact lastLine_of_blankBefore hs h.1.2
  · rfl

theorem keeps_ofPieces (pieces : Pieces) (atStart dropFirst : Bool) (offset : Nat)
    (read : List Char) (hs : atStart = true → read = [])
    (hr : atStart = false → ∃ cs, read = cs ++ closeBraces)
    (hd : dropFirst = true → blankAfter pieces = true)
    (hk : ∀ token ∈ Token.ofPieces atStart dropFirst offset pieces, token.event?.isSome = true) :
    Keeps (if dropFirst then throughNewline pieces.text else []) pieces.text
      (pieces.occurrences read)
      ((Token.ofPieces atStart dropFirst offset pieces).filterMap Token.event?) := by
  -- What is read ends with the brackets of a tag, unless the text begins here; a first line that goes
  -- with that tag ends within the gap.
  induction pieces generalizing atStart dropFirst offset read with
  | last gap =>
    rw [Token.ofPieces, filterMap_event?_ofGap]
    apply Keeps.last
    have hg := keptGap_margins dropFirst false gap fun _ => .inr rfl
    simpa [Pieces.text] using hg
  | unterminated gap content =>
    rw [Token.ofPieces] at hk
    have hf := hk _ (List.mem_append_right _ (List.mem_singleton_self _))
    cases hf
  | tag gap content next ih =>
    simp only [Token.ofPieces] at hk ⊢
    cases hc : Tag.read content with
    | error fault =>
      rw [hc] at hk
      have hf := hk _ (List.mem_append_right _ (List.mem_singleton_self _))
      cases hf
    | ok mark =>
      simp only [hc, List.forall_mem_append, List.forall_mem_cons] at hk ⊢
      let found : Occurrence := ⟨read ++ gap, content, true, next.text⟩
      have ha := isAlone_eq gap content next mark hs hr
      have hb : found.isAlone mark = true → blankAfter next = true := by
        intro h
        rw [← ha, Bool.and_eq_true] at h
        exact h.2
      have hm : dropFirst = true → '\n' ∈ gap := fun h => newline_mem_of_blankAfter (hd h)
      have hf : (if dropFirst then throughNewline (Pieces.tag gap content next).text else []) =
          if dropFirst then throughNewline gap else [] := by
        split
        · rename_i h
          exact throughNewline_text_tag (hm h) content next
        · rfl
      rw [ha] at hk ⊢
      have hn := ih false (found.isAlone mark)
        (offset + byteLength gap + 2 + byteLength content + 2)
        (read ++ gap ++ openBraces ++ content ++ closeBraces)
        (fun h => (Bool.false_ne_true h).elim) (fun _ => ⟨_, rfl⟩) hb hk.2.2
      have he (span : Span) : Token.event? ⟨span, .tag mark⟩ = some (.tag mark) := rfl
      rw [List.filterMap_append, List.filterMap_cons_some (he _), filterMap_event?_ofGap]
      refine .tag ⟨rfl, (Tag.read_eq_ok_iff _ _).mp hc⟩ ?_ hn
      rw [hf, marginBefore_eq gap content next mark hs hr,
        ← keptGap_margins _ _ _ fun h => .inl (hm h)]
      simp [Pieces.text, Occurrence.source]

theorem keeps_of_parse {text : String} {nodes : List Node} (h : parse text = .ok nodes) :
    Keeps [] text.toList ((Pieces.outside text.toList).occurrences []) (readNodes nodes) := by
  obtain ⟨hs, hr⟩ := readNodes_of_parse h
  have hk := keeps_ofPieces (.outside text.toList) true false 0 [] (fun _ => rfl)
    (fun h => (Bool.false_ne_true h.symm).elim) (fun h => (Bool.false_ne_true h).elim) hs
  rw [Pieces.text_outside] at hk
  rw [hr]
  exact hk

/-- Reading the tree of a template in order gives the tags of its text, each once and in their order,
and between them the text that stands there, without the margins of the tags that are alone on their
lines. -/
theorem readNodes_of_parse_keeps {text : String} {nodes : List Node}
    (h : parse text = .ok nodes) :
    ∃ tags, (∀ other, Scans [] text.toList other ↔ other = tags) ∧
      Keeps [] text.toList tags (readNodes nodes) :=
  ⟨_, Pieces.scans_iff [] text.toList, keeps_of_parse h⟩

theorem readNodes_of_parse_keeps_block :
    parse ("a\n " ++ braced "#if x" ++ "\t\r\n" ++ braced "y" ++ braced "/if") =
        .ok [.text "a\n", .block .when "x" [.value "y"]] ∧
      ∃ tags,
        (∀ other, Scans []
          ("a\n " ++ braced "#if x" ++ "\t\r\n" ++ braced "y" ++ braced "/if").toList other ↔
            other = tags) ∧
        Keeps [] ("a\n " ++ braced "#if x" ++ "\t\r\n" ++ braced "y" ++ braced "/if").toList tags
          (readNodes [.text "a\n", .block .when "x" [.value "y"]]) :=
  ⟨rfl, readNodes_of_parse_keeps rfl⟩

end PointerHelpers.Template
