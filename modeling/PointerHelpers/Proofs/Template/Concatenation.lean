import PointerHelpers.Proofs.Template.Joining
import PointerHelpers.Proofs.Template.Margins

namespace PointerHelpers.Template

namespace Token

def textAt (start : Nat) (cs : List Char) : List Token :=
  if cs.isEmpty then [] else [⟨⟨start, start + byteLength cs⟩, .text (.ofList cs)⟩]

theorem shift_textAt (bytes start : Nat) (cs : List Char) :
    (textAt start cs).map (shift bytes) = textAt (bytes + start) cs := by
  rw [textAt, textAt]
  split
  · rfl
  · rw [List.map_singleton, shift, Span.shift, Nat.add_assoc]

theorem textAt_append (start : Nat) (cs ds : List Char) :
    textAt start (cs ++ ds) =
      joinWith fuse (textAt start cs) (textAt (start + byteLength cs) ds) := by
  cases cs with
  | nil => rfl
  | cons c cs =>
    cases ds with
    | nil => rw [List.append_nil]; exact (joinWith_nil _).symm
    | cons d ds =>
      show [Token.mk ⟨start, start + byteLength ((c :: cs) ++ (d :: ds))⟩
          (.text (.ofList ((c :: cs) ++ (d :: ds))))] =
        [⟨⟨start, start + byteLength (c :: cs) + byteLength (d :: ds)⟩,
          .text (.ofList (c :: cs) ++ .ofList (d :: ds))⟩]
      rw [byteLength_append, String.ofList_append, Nat.add_assoc]

theorem ofGap_eq_textAt (offset : Nat) (dropFirst dropLast : Bool) (gap : List Char) :
    ofGap offset dropFirst dropLast gap =
      textAt (offset + (byteLength gap - byteLength (keptGap dropFirst false gap)))
        (keptGap dropFirst dropLast gap) :=
  rfl

theorem shift_ofGap (bytes offset : Nat) (dropFirst dropLast : Bool) (gap : List Char) :
    (ofGap offset dropFirst dropLast gap).map (shift bytes) =
      ofGap (bytes + offset) dropFirst dropLast gap := by
  rw [ofGap_eq_textAt, ofGap_eq_textAt, shift_textAt, Nat.add_assoc]

theorem shift_ofPieces (bytes offset : Nat) (atStart dropFirst : Bool) (pieces : Pieces) :
    (ofPieces atStart dropFirst offset pieces).map (shift bytes) =
      ofPieces atStart dropFirst (bytes + offset) pieces := by
  induction pieces generalizing atStart dropFirst offset with
  | last gap => exact shift_ofGap bytes offset dropFirst false gap
  | unterminated gap content =>
    simp only [ofPieces, List.map_append, List.map_singleton, shift_ofGap, shift, Span.shift,
      Nat.add_assoc]
  | tag gap content next ih =>
    simp only [ofPieces]
    cases Tag.read content with
    | error fault =>
      simp only [List.map_append, List.map_singleton, shift_ofGap, shift, Span.shift, Nat.add_assoc]
    | ok tag =>
      simp only [List.map_append, List.map_cons, shift_ofGap, ih, shift, Span.shift, Nat.add_assoc]

theorem keptGap_append (dropFirst dropLast : Bool) {gap : List Char}
    (h : gap.getLast? = some '\n') (later : List Char) :
    keptGap dropFirst dropLast (gap ++ later) =
      keptGap dropFirst false gap ++ keptGap false dropLast later := by
  obtain ⟨hm, hl⟩ := lastLine_eq_nil_of_getLast? h
  have hf : (if dropFirst then afterFirstLine (gap ++ later) else gap ++ later) =
      (if dropFirst then afterFirstLine gap else gap) ++ later := by
    cases dropFirst with
    | false => rfl
    | true => exact afterFirstLine_append_of_mem hm later
  have hk : lastLine (if dropFirst then afterFirstLine gap else gap) = [] := by
    cases dropFirst with
    | false => exact hl
    | true => exact (lastLine_afterFirstLine hm).trans hl
  cases dropLast with
  | false => exact hf
  | true =>
    simp only [keptGap, if_true, Bool.false_eq_true, if_false]
    rw [hf, beforeLastLine_append hk]

theorem byteLength_keptGap_le (dropFirst : Bool) (gap : List Char) :
    byteLength (keptGap dropFirst false gap) ≤ byteLength gap := by
  cases dropFirst with
  | false => exact Nat.le_refl _
  | true =>
    have hb := congrArg byteLength (throughNewline_append_afterFirstLine gap)
    rw [byteLength_append] at hb
    exact Nat.le.intro ((Nat.add_comm _ _).trans hb)

theorem ofGap_append (offset : Nat) (dropFirst dropLast : Bool) {gap : List Char}
    (h : gap.getLast? = some '\n') (later : List Char) :
    ofGap offset dropFirst dropLast (gap ++ later) =
      joinWith fuse (ofGap offset dropFirst false gap)
        (ofGap (offset + byteLength gap) false dropLast later) := by
  have hk : keptGap false false later = later := rfl
  have hle := byteLength_keptGap_le dropFirst gap
  rw [ofGap_eq_textAt, ofGap_eq_textAt, ofGap_eq_textAt, keptGap_append _ _ h,
    keptGap_append _ _ h, hk, byteLength_append, byteLength_append, Nat.add_sub_add_right,
    textAt_append]
  congr 2
  omega

/-- The line break keeps what is before it from what stands beside the tags after it. -/
theorem blankBefore_append (atStart : Bool) {gap : List Char} (h : gap.getLast? = some '\n')
    (later : List Char) : blankBefore atStart (gap ++ later) = blankBefore true later := by
  obtain ⟨hm, hl⟩ := lastLine_eq_nil_of_getLast? h
  rw [blankBefore, blankBefore, lastLine_append hl]
  simp [hm]

theorem fuse_fault (token : Token) (span : Span) (fault : Fault) :
    token.fuse ⟨span, .fault fault⟩ = none := by
  obtain ⟨_, kind⟩ := token
  cases kind <;> rfl

theorem fuse_tag (token : Token) (span : Span) (tag : Tag) :
    token.fuse ⟨span, .tag tag⟩ = none := by
  obtain ⟨_, kind⟩ := token
  cases kind <;> rfl

theorem ofPieces_prepend (atStart dropFirst : Bool) (offset : Nat) {gap : List Char}
    (h : gap.getLast? = some '\n') (pieces : Pieces) :
    ofPieces atStart dropFirst offset (pieces.prepend gap) =
      joinWith fuse (ofGap offset dropFirst false gap)
        (ofPieces true false (offset + byteLength gap) pieces) := by
  have hg (dropLast : Bool) (later : List Char) (rest : List Token)
      (hr : ∀ token ∈ rest.head?, ∀ x : Token, x.fuse token = none) :
      ofGap offset dropFirst dropLast (gap ++ later) ++ rest =
        joinWith fuse (ofGap offset dropFirst false gap)
          (ofGap (offset + byteLength gap) false dropLast later ++ rest) := by
    rw [joinWith_append_right _ _ hr, ofGap_append _ _ _ h]
  cases pieces with
  | last later => exact ofGap_append offset dropFirst false h later
  | unterminated later content =>
    simp only [Pieces.prepend, ofPieces, byteLength_append, ← Nat.add_assoc]
    exact hg _ _ _ (by simpa using fun token => fuse_fault token _ _)
  | tag later content next =>
    simp only [Pieces.prepend, ofPieces, blankBefore_append _ h, byteLength_append,
      ← Nat.add_assoc]
    cases Tag.read content with
    | error fault => exact hg _ _ _ (by simpa using fun token => fuse_fault token _ _)
    | ok tag => exact hg _ _ _ (by simpa using fun token => fuse_tag token _ _)

/-- The tokens of whole lines and of what is behind them, where the lines have no fault and every tag
in them is closed. -/
theorem ofPieces_append {text : List Char} (h : text.getLast? = some '\n') (later : List Char)
    (atStart dropFirst : Bool) (offset : Nat)
    (hs : ∀ token ∈ ofPieces atStart dropFirst offset (.outside text), token.event?.isSome = true) :
    ofPieces atStart dropFirst offset (.outside (text ++ later)) =
      joinWith fuse (ofPieces atStart dropFirst offset (.outside text))
        (ofPieces true false (offset + byteLength text) (.outside later)) := by
  induction text using Pieces.outside_induction generalizing atStart dropFirst offset with
  | last text hn =>
    have hb : text.getLast? ≠ some '{' := by simp [h]
    rw [Pieces.outside_append (not_openBraces_isInfix_concat hb hn), Pieces.outside_last hn,
      ofPieces_prepend _ _ _ h, ofPieces]
  | unterminated text gap content ho hn =>
    rw [Pieces.outside_unterminated ho hn, ofPieces] at hs
    have hf := hs _ (List.mem_append_right _ (List.mem_singleton_self _))
    cases hf
  | tag text gap inner content after ho hc ih =>
    have hl : byteLength text = byteLength gap + 2 + byteLength content + 2 + byteLength after := by
      rw [ho.text_eq, hc.text_eq]
      simp only [byteLength_append, byteLength_openBraces, byteLength_closeBraces, Nat.add_assoc]
    have hi : inner.getLast? = some '\n' := (ho.getLast?_after rfl (by simp [h])).trans h
    have ha : after.getLast? = some '\n' := (hc.getLast?_after rfl (by simp [hi])).trans hi
    -- The line of the tag ends before what is behind the text.
    have hb : blankAfter (.outside (after ++ later)) = blankAfter (.outside after) := by
      rw [blankAfter_eq, blankAfter_eq, Pieces.text_outside, Pieces.text_outside,
        throughNewline_append_of_mem (lastLine_eq_nil_of_getLast? ha).1]
    rw [Pieces.outside_tag ho hc] at hs ⊢
    rw [Pieces.outside_tag (ho.append later) (hc.append later)]
    simp only [ofPieces, hb] at hs ⊢
    cases hr : Tag.read content with
    | error fault =>
      rw [hr] at hs
      have hf := hs _ (List.mem_append_right _ (List.mem_singleton_self _))
      cases hf
    | ok tag =>
      rw [hr] at hs
      simp only [List.forall_mem_append, List.forall_mem_cons] at hs ⊢
      rw [joinWith_append_left _ (List.cons_ne_nil _ _), joinWith_cons_of_none fun _ => rfl,
        ih ha _ _ _ hs.2.2, hl]
      simp only [Nat.add_assoc]

end Token

theorem scan_append {text : String} (h : text.toList.getLast? = some '\n')
    (hs : ∀ token ∈ Token.scan text, token.event?.isSome = true) (later : String) :
    Token.scan (text ++ later) = joinWith Token.fuse (Token.scan text)
      ((Token.scan later).map (Token.shift text.utf8ByteSize)) := by
  rw [Token.scan, String.toList_append, Token.ofPieces_append h _ _ _ _ hs, Token.scan, Token.scan,
    Token.shift_ofPieces, utf8ByteSize_eq_byteLength, Nat.zero_add, Nat.add_zero]

theorem event?_shift (bytes : Nat) (tokens : List Token) :
    (tokens.map (Token.shift bytes)).map Token.event? = tokens.map Token.event? := by
  rw [List.map_map]
  rfl

theorem parse_append_of_ok {text later : String} {nodes nodes' : List Node}
    (h : text.toList.getLast? = some '\n') (hp : parse text = .ok nodes)
    (hl : parse later = .ok nodes') :
    parse (text ++ later) = .ok (joinWith Node.fuse nodes nodes') := by
  have hs := (readNodes_of_parse hp).1
  rw [parse_eq_ok_iff] at hp hl ⊢
  rw [← event?_shift text.utf8ByteSize] at hl
  rw [scan_append h hs, event?_joinWith hp hl, readNodes_joinWith]

theorem parse_append_of_error {text later : String} {nodes : List Node} {mistake : Mistake}
    (h : text.toList.getLast? = some '\n') (hp : parse text = .ok nodes)
    (hl : parse later = .error mistake) :
    parse (text ++ later) = .error (mistake.shift text.utf8ByteSize) := by
  have hs := (readNodes_of_parse hp).1
  rw [parse, scan_append h hs]
  exact build_joinWith hp (build_shift _ rfl hl [])

/-- Behind a template that ends with its line, or is empty, a text is read as it is read alone: its
nodes come after those of the template, with a text at the end of these and a text at the beginning
of those made one, or its mistake is found as many bytes later as the template has. -/
theorem parse_append {text : String} {nodes : List Node}
    (h : text = "" ∨ ∃ lines, text = lines ++ "\n") (hp : parse text = .ok nodes) (later : String) :
    (∀ nodes', parse later = .ok nodes' →
      parse (text ++ later) = .ok (joinWith Node.fuse nodes nodes')) ∧
    ∀ mistake, parse later = .error mistake →
      parse (text ++ later) = .error (mistake.shift text.utf8ByteSize) := by
  obtain rfl | ⟨lines, rfl⟩ := h
  · rw [show parse "" = .ok [] from rfl] at hp
    cases hp
    rw [String.empty_append]
    refine ⟨fun nodes' hl => hl, fun mistake hl => ?_⟩
    rwa [String.utf8ByteSize_empty, Mistake.shift_zero]
  · have hl : (lines ++ "\n").toList.getLast? = some '\n' := by
      rw [String.toList_append]
      exact List.getLast?_concat
    exact ⟨fun nodes' => parse_append_of_ok hl hp, fun mistake => parse_append_of_error hl hp⟩

theorem parse_append_sentence :
    (∃ lines, braced "#if x" ++ "\nyes\n" ++ braced "/if" ++ " \nend\n" = lines ++ "\n") ∧
    parse (braced "#if x" ++ "\nyes\n" ++ braced "/if" ++ " \nend\n") =
      .ok [.block .when "x" [.text "yes\n"], .text "end\n"] ∧
    parse ("so" ++ braced "y") = .ok [.text "so", .value "y"] ∧
    parse (braced "#if x" ++ "\nyes\n" ++ braced "/if" ++ " \nend\n" ++ ("so" ++ braced "y")) =
      .ok [.block .when "x" [.text "yes\n"], .text "end\nso", .value "y"] ∧
    parse ("é" ++ braced " ") = .error ⟨.emptyTag, ⟨2, 7⟩⟩ ∧
    parse (braced "#if x" ++ "\nyes\n" ++ braced "/if" ++ " \nend\n" ++ ("é" ++ braced " ")) =
      .error ⟨.emptyTag, ⟨29, 34⟩⟩ := by
  have hl : ∃ lines, braced "#if x" ++ "\nyes\n" ++ braced "/if" ++ " \nend\n" = lines ++ "\n" :=
    ⟨braced "#if x" ++ "\nyes\n" ++ braced "/if" ++ " \nend", by decide⟩
  have hp : parse (braced "#if x" ++ "\nyes\n" ++ braced "/if" ++ " \nend\n") =
      .ok [.block .when "x" [.text "yes\n"], .text "end\n"] := rfl
  have hs : parse ("so" ++ braced "y") = .ok [.text "so", .value "y"] := rfl
  have he : parse ("é" ++ braced " ") = .error ⟨.emptyTag, ⟨2, 7⟩⟩ := rfl
  exact ⟨hl, hp, hs, (parse_append (.inr hl) hp _).1 _ hs, he, (parse_append (.inr hl) hp _).2 _ he⟩

end PointerHelpers.Template
