import PointerHelpers.Proofs.Template.Lines
import PointerHelpers.Proofs.Template.Occurrence

namespace PointerHelpers.Template

def cutAt? : Nat → List Char → Option (List Char × List Char)
  | 0, cs => some ([], cs)
  | _ + 1, [] => none
  | n + 1, c :: cs =>
    if c.utf8Size ≤ n + 1 then
      (cutAt? (n + 1 - c.utf8Size) cs).map fun cut => (c :: cut.1, cut.2)
    else none

def sliceFrom? (text : List Char) (start : Nat) : Option (List Char) :=
  (cutAt? start text).map Prod.snd

def sliceTo? (text : List Char) (stop : Nat) : Option (List Char) :=
  (cutAt? stop text).map Prod.fst

def slice? (text : List Char) (start stop : Nat) : Option (List Char) :=
  if start ≤ stop then (sliceFrom? text start).bind (sliceTo? · (stop - start)) else none

def indexOf? (sought : List Char) : List Char → Option Nat
  | [] => none
  | c :: cs =>
    if sought.isPrefixOf (c :: cs) then some 0 else (indexOf? sought cs).map (c.utf8Size + ·)

def lastIndexOf? (sought : Char) : List Char → Option Nat
  | [] => none
  | c :: cs =>
    match lastIndexOf? sought cs with
    | some n => some (c.utf8Size + n)
    | none => if c = sought then some 0 else none

theorem byteLength_cons (c : Char) (cs : List Char) :
    byteLength (c :: cs) = c.utf8Size + byteLength cs := rfl

theorem cutAt?_append (before after : List Char) :
    cutAt? (byteLength before) (before ++ after) = some (before, after) := by
  induction before with
  | nil =>
    rw [List.nil_append]
    exact cutAt?.eq_1 after
  | cons c before ih =>
    obtain ⟨n, hn⟩ : ∃ n, byteLength (c :: before) = n + 1 :=
      Nat.exists_eq_succ_of_ne_zero (Nat.ne_of_gt (Nat.add_pos_left c.utf8Size_pos _))
    have hs : byteLength before = n + 1 - c.utf8Size := by
      rw [← hn, byteLength_cons, Nat.add_sub_cancel_left]
    have hc : c.utf8Size ≤ n + 1 := by
      rw [← hn]
      exact Nat.le_add_right _ _
    rw [hn, List.cons_append, cutAt?, if_pos hc, ← hs, ih, Option.map_some]

theorem of_cutAt?_eq_some {n : Nat} {text : List Char} {cut : List Char × List Char}
    (h : cutAt? n text = some cut) : text = cut.1 ++ cut.2 ∧ byteLength cut.1 = n := by
  fun_induction cutAt? n text generalizing cut with
  | case1 cs =>
    cases h
    exact ⟨rfl, rfl⟩
  | case2 n => cases h
  | case3 n c cs hc ih =>
    obtain ⟨rest, hr, rfl⟩ := Option.map_eq_some_iff.mp h
    obtain ⟨he, hn⟩ := ih hr
    refine ⟨by rw [he]; rfl, ?_⟩
    rw [byteLength_cons, hn]
    omega
  | case4 n c cs hc => cases h

theorem sliceFrom?_append (before after : List Char) :
    sliceFrom? (before ++ after) (byteLength before) = some after := by
  rw [sliceFrom?, cutAt?_append, Option.map_some]

theorem sliceTo?_append (before after : List Char) :
    sliceTo? (before ++ after) (byteLength before) = some before := by
  rw [sliceTo?, cutAt?_append, Option.map_some]

/-- What is between two positions is there exactly when they are in order, within the text and
between characters. -/
theorem slice?_eq_some_iff (text cs : List Char) (start stop : Nat) :
    slice? text start stop = some cs ↔ ∃ before after, text = before ++ cs ++ after ∧
      byteLength before = start ∧ byteLength before + byteLength cs = stop := by
  constructor
  · intro h
    rw [slice?] at h
    split at h
    · obtain ⟨rest, hr, hs⟩ := Option.bind_eq_some_iff.mp h
      obtain ⟨⟨before, _⟩, hb, rfl⟩ := Option.map_eq_some_iff.mp hr
      obtain ⟨⟨_, after⟩, ha, rfl⟩ := Option.map_eq_some_iff.mp hs
      obtain ⟨ht, hb⟩ := of_cutAt?_eq_some hb
      obtain ⟨hc, ha⟩ := of_cutAt?_eq_some ha
      simp only at ht hb hc ha ⊢
      exact ⟨before, after, by rw [ht, hc, List.append_assoc], hb, by omega⟩
    · cases h
  · rintro ⟨before, after, rfl, rfl, rfl⟩
    rw [slice?, if_pos (Nat.le_add_right _ _), List.append_assoc, sliceFrom?_append,
      Option.bind_some, Nat.add_sub_cancel_left, sliceTo?_append]

theorem indexOf?_of_firstAt {sought text before after : List Char} (hs : sought ≠ [])
    (h : FirstAt sought text before after) : indexOf? sought text = some (byteLength before) := by
  induction before generalizing text with
  | nil =>
    have hp : sought <+: text := ⟨after, h.text_eq.symm⟩
    cases text with
    | nil => exact absurd (List.prefix_nil.mp hp) hs
    | cons c cs => rw [indexOf?, if_pos (List.isPrefixOf_iff_prefix.mpr hp)]; rfl
  | cons c before ih =>
    obtain ⟨cs, rfl⟩ : ∃ cs, text = c :: cs := ⟨_, h.text_eq⟩
    have hn : ¬ sought.isPrefixOf (c :: cs) = true := fun hp =>
      Pieces.not_isPrefix_of_firstAt_cons h (List.isPrefixOf_iff_prefix.mp hp)
    rw [indexOf?, if_neg hn, ih h.of_cons, Option.map_some, byteLength_cons]

theorem indexOf?_of_not_isInfix {sought text : List Char} (h : ¬ sought <:+: text) :
    indexOf? sought text = none := by
  induction text with
  | nil => rfl
  | cons c cs ih =>
    have hn : ¬ sought.isPrefixOf (c :: cs) = true := fun hp =>
      h (List.isPrefixOf_iff_prefix.mp hp).isInfix
    rw [indexOf?, if_neg hn, ih fun hi => h (List.infix_cons hi), Option.map_none]

theorem lastIndexOf?_of_not_mem {sought : Char} {text : List Char} (h : sought ∉ text) :
    lastIndexOf? sought text = none := by
  induction text with
  | nil => rfl
  | cons c cs ih =>
    rw [List.mem_cons, not_or] at h
    rw [lastIndexOf?, ih h.2]
    exact if_neg (Ne.symm h.1)

theorem lastIndexOf?_append_cons {sought : Char} {after : List Char} (h : sought ∉ after)
    (before : List Char) :
    lastIndexOf? sought (before ++ sought :: after) = some (byteLength before) := by
  induction before with
  | nil =>
    rw [List.nil_append, lastIndexOf?, lastIndexOf?_of_not_mem h]
    exact if_pos rfl
  | cons c before ih => rw [List.cons_append, lastIndexOf?, ih, byteLength_cons]

theorem indexOf?_newline {line : List Char} (h : '\n' ∉ line) (rest : List Char) :
    indexOf? ['\n'] (line ++ '\n' :: rest) = some (byteLength line) := by
  have hf : FirstAt ['\n'] (line ++ '\n' :: rest) line rest := by
    refine ⟨by rw [List.append_assoc, List.singleton_append], fun before after he => ?_⟩
    refine Nat.le_of_not_lt fun hl => h ?_
    have hp : before ++ ['\n'] <+: line := by
      apply List.prefix_of_prefix_length_le ⟨after, he.symm⟩ (List.prefix_append _ _)
      rw [List.length_append]
      exact hl
    exact hp.subset (List.mem_append_right _ (List.mem_singleton_self _))
  exact indexOf?_of_firstAt (List.cons_ne_nil _ _) hf

theorem elim_lastIndexOf?_newline (before : List Char) :
    (lastIndexOf? '\n' before).elim 0 (· + 1) = byteLength (beforeLastLine before) := by
  have hb := beforeLastLine_append_lastLine before
  by_cases h : '\n' ∈ before
  · obtain ⟨line, rest, he, hn⟩ := exists_line_of_mem (List.mem_reverse.mpr h)
    have hr : '\n' ∉ line.reverse := fun hm => hn (List.mem_reverse.mp hm)
    obtain rfl : before = rest.reverse ++ '\n' :: line.reverse := by
      rw [← List.reverse_reverse before, he, List.reverse_append, List.reverse_cons,
        List.append_assoc, List.singleton_append]
    have hl : lastLine (rest.reverse ++ '\n' :: line.reverse) = line.reverse := by
      rw [lastLine_append_newline]
      exact (lastLine_append_of_not_mem hr []).trans (List.nil_append _)
    rw [hl, ← List.singleton_append, ← List.append_assoc] at hb
    rw [lastIndexOf?_append_cons hr, ← List.singleton_append, ← List.append_assoc,
      List.append_cancel_right hb, byteLength_append]
    rfl
  · have hl : lastLine before = before := (lastLine_append_of_not_mem h []).trans (List.nil_append _)
    rw [hl, List.append_left_eq_self] at hb
    rw [lastIndexOf?_of_not_mem h, hb]
    rfl

theorem elim_indexOf?_newline (stop : Nat) (after : List Char) :
    (indexOf? ['\n'] after).elim (stop + byteLength after) (stop + · + 1) =
      stop + byteLength (throughNewline after) := by
  by_cases h : '\n' ∈ after
  · obtain ⟨line, rest, rfl, hn⟩ := exists_line_of_mem h
    rw [indexOf?_newline hn, throughNewline_append_newline hn, byteLength_append line ['\n'],
      ← Nat.add_assoc]
    rfl
  · have hi : ¬ ['\n'] <:+: after := fun hi => h (hi.subset (List.mem_singleton_self _))
    rw [indexOf?_of_not_isInfix hi, throughNewline_of_not_mem h]
    rfl

end PointerHelpers.Template
