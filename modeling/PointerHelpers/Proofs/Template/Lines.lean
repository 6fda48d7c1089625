import Mathlib.Data.List.TakeWhile
import PointerHelpers.Template.Token

namespace PointerHelpers.Template

def throughNewline (cs : List Char) : List Char :=
  firstLine cs ++ (cs.dropWhile (· != '\n')).take 1

theorem throughNewline_append_afterFirstLine (cs : List Char) :
    throughNewline cs ++ afterFirstLine cs = cs := by
  rw [throughNewline, afterFirstLine, List.append_assoc, List.take_append_drop, firstLine,
    List.takeWhile_append_dropWhile]

theorem beforeLastLine_append_lastLine (cs : List Char) :
    beforeLastLine cs ++ lastLine cs = cs := by
  rw [beforeLastLine, lastLine, ← List.reverse_append, List.takeWhile_append_dropWhile,
    List.reverse_reverse]

theorem bne_newline_of_not_mem {cs : List Char} (h : '\n' ∉ cs) :
    ∀ c ∈ cs, (c != '\n') = true := by
  intro c hm
  rw [bne_iff_ne]
  rintro rfl
  exact h hm

theorem exists_line_of_mem {cs : List Char} (h : '\n' ∈ cs) :
    ∃ line rest, cs = line ++ '\n' :: rest ∧ '\n' ∉ line := by
  induction cs with
  | nil => cases h
  | cons c cs ih =>
    by_cases hc : c = '\n'
    · subst hc
      exact ⟨[], cs, rfl, List.not_mem_nil⟩
    · have hm : '\n' ∈ cs := (List.mem_cons.mp h).resolve_left fun he => hc he.symm
      obtain ⟨line, rest, he, hn⟩ := ih hm
      exact ⟨c :: line, rest, by rw [he, List.cons_append], by simp [Ne.symm hc, hn]⟩

theorem firstLine_of_not_mem {cs : List Char} (h : '\n' ∉ cs) (rest : List Char) :
    firstLine (cs ++ rest) = cs ++ firstLine rest :=
  List.takeWhile_append_of_pos (bne_newline_of_not_mem h)

theorem firstLine_append_newline {line : List Char} (h : '\n' ∉ line) (rest : List Char) :
    firstLine (line ++ '\n' :: rest) = line := by
  rw [firstLine_of_not_mem h]
  simp [firstLine]

theorem throughNewline_append_newline {line : List Char} (h : '\n' ∉ line) (rest : List Char) :
    throughNewline (line ++ '\n' :: rest) = line ++ ['\n'] := by
  rw [throughNewline, firstLine_append_newline h,
    List.dropWhile_append_of_pos (bne_newline_of_not_mem h)]
  simp

theorem afterFirstLine_append_newline {line : List Char} (h : '\n' ∉ line) (rest : List Char) :
    afterFirstLine (line ++ '\n' :: rest) = rest := by
  rw [afterFirstLine, List.dropWhile_append_of_pos (bne_newline_of_not_mem h)]
  simp

theorem firstLine_append_of_mem {cs : List Char} (h : '\n' ∈ cs) (rest : List Char) :
    firstLine (cs ++ rest) = firstLine cs := by
  obtain ⟨line, after, rfl, hn⟩ := exists_line_of_mem h
  rw [List.append_assoc, List.cons_append, firstLine_append_newline hn, firstLine_append_newline hn]

theorem throughNewline_append_of_mem {cs : List Char} (h : '\n' ∈ cs) (rest : List Char) :
    throughNewline (cs ++ rest) = throughNewline cs := by
  obtain ⟨line, after, rfl, hn⟩ := exists_line_of_mem h
  rw [List.append_assoc, List.cons_append, throughNewline_append_newline hn,
    throughNewline_append_newline hn]

theorem throughNewline_of_not_mem {cs : List Char} (h : '\n' ∉ cs) : throughNewline cs = cs := by
  have hd : cs.dropWhile (· != '\n') = [] :=
    List.dropWhile_eq_nil_iff.mpr (bne_newline_of_not_mem h)
  rw [throughNewline, hd, List.take_nil, List.append_nil, firstLine,
    List.takeWhile_eq_self_iff.mpr (bne_newline_of_not_mem h)]

theorem lastLine_append_of_not_mem {cs : List Char} (h : '\n' ∉ cs) (before : List Char) :
    lastLine (before ++ cs) = lastLine before ++ cs := by
  have hr : '\n' ∉ cs.reverse := fun hm => h (List.mem_reverse.mp hm)
  rw [lastLine, List.reverse_append, List.takeWhile_append_of_pos (bne_newline_of_not_mem hr),
    List.reverse_append, List.reverse_reverse, lastLine]

theorem lastLine_append_newline (before cs : List Char) :
    lastLine (before ++ '\n' :: cs) = lastLine cs := by
  have hr : (before ++ '\n' :: cs).reverse = cs.reverse ++ '\n' :: before.reverse := by simp
  rw [lastLine, hr, List.takeWhile_append, lastLine]
  split
  · rename_i hl
    rw [(List.takeWhile_prefix _).eq_of_length hl]
    simp
  · rfl

theorem lastLine_append_of_mem {cs : List Char} (h : '\n' ∈ cs) (before : List Char) :
    lastLine (before ++ cs) = lastLine cs := by
  obtain ⟨line, rest, rfl, -⟩ := exists_line_of_mem h
  rw [← List.append_assoc, lastLine_append_newline, lastLine_append_newline]

theorem afterFirstLine_append_of_mem {cs : List Char} (h : '\n' ∈ cs) (rest : List Char) :
    afterFirstLine (cs ++ rest) = afterFirstLine cs ++ rest := by
  obtain ⟨line, after, rfl, hn⟩ := exists_line_of_mem h
  rw [List.append_assoc, List.cons_append, afterFirstLine_append_newline hn,
    afterFirstLine_append_newline hn]

theorem lastLine_append {cs : List Char} (h : lastLine cs = []) (rest : List Char) :
    lastLine (cs ++ rest) = lastLine rest := by
  by_cases hm : '\n' ∈ rest
  · exact lastLine_append_of_mem hm cs
  · rw [lastLine_append_of_not_mem hm, h]
    exact (lastLine_append_of_not_mem hm []).symm

theorem lastLine_eq_nil_of_getLast? {cs : List Char} (h : cs.getLast? = some '\n') :
    '\n' ∈ cs ∧ lastLine cs = [] := by
  obtain ⟨init, rfl⟩ := List.getLast?_eq_some_iff.mp h
  refine ⟨by simp, ?_⟩
  rw [lastLine_append_newline]
  rfl

theorem beforeLastLine_append {cs : List Char} (h : lastLine cs = []) (rest : List Char) :
    beforeLastLine (cs ++ rest) = cs ++ beforeLastLine rest := by
  have he : beforeLastLine (cs ++ rest) ++ lastLine rest =
      cs ++ beforeLastLine rest ++ lastLine rest := by
    rw [← lastLine_append h, beforeLastLine_append_lastLine, lastLine_append h, List.append_assoc,
      beforeLastLine_append_lastLine]
  exact List.append_cancel_right he

/-- The newline at the end of a line is blank itself. -/
theorem all_isBlank_throughNewline (cs : List Char) :
    (throughNewline cs).all isBlank = (firstLine cs).all isBlank := by
  by_cases h : '\n' ∈ cs
  · obtain ⟨line, rest, rfl, hn⟩ := exists_line_of_mem h
    rw [throughNewline_append_newline hn, firstLine_append_newline hn, List.all_append]
    exact Bool.and_true _
  · rw [throughNewline_of_not_mem h, firstLine,
      List.takeWhile_eq_self_iff.mpr (bne_newline_of_not_mem h)]

/-- What is kept of a gap when a line of it may go with a tag at either end. -/
def keptGap (dropFirst dropLast : Bool) (gap : List Char) : List Char :=
  let body := if dropFirst then afterFirstLine gap else gap
  if dropLast then beforeLastLine body else body

theorem ofGap_eq (offset : Nat) (dropFirst dropLast : Bool) (gap : List Char) :
    ∃ span, Token.ofGap offset dropFirst dropLast gap =
      if (keptGap dropFirst dropLast gap).isEmpty then []
      else [⟨span, .text (.ofList (keptGap dropFirst dropLast gap))⟩] :=
  ⟨_, rfl⟩

end PointerHelpers.Template
