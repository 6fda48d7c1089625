import Mathlib.Data.List.Chain
import PointerHelpers.Proofs.Template.CursorBounds
import PointerHelpers.Proofs.Template.RoundTrip

namespace PointerHelpers.Template

open Text

mutual

def Node.IsNormal : Node → Prop
  | .text content => content ≠ ""
  | .value name => isIdentifier name.toList = true
  | .inclusion template => IsTemplateName template.toList
  | .block _ name body => isIdentifier name.toList = true ∧ AreNormal body

/-- Trees in normal form, in which no two texts are beside one another at any level. -/
def AreNormal : List Node → Prop
  | [] => True
  | node :: rest =>
    node.IsNormal ∧ (∀ next ∈ rest.head?, (node.isText && next.isText) = false) ∧ AreNormal rest

end

mutual

instance decidableIsNormal : (node : Node) → Decidable node.IsNormal
  | .text content => inferInstanceAs (Decidable (content ≠ ""))
  | .value name => inferInstanceAs (Decidable (isIdentifier name.toList = true))
  | .inclusion template => inferInstanceAs (Decidable (IsTemplateName template.toList))
  | .block _ name body =>
    have := decidableAreNormal body
    inferInstanceAs (Decidable (isIdentifier name.toList = true ∧ AreNormal body))

instance decidableAreNormal : (nodes : List Node) → Decidable (AreNormal nodes)
  | [] => inferInstanceAs (Decidable True)
  | node :: rest =>
    have := decidableIsNormal node
    have := decidableAreNormal rest
    inferInstanceAs (Decidable (node.IsNormal ∧
      (∀ next ∈ rest.head?, (node.isText && next.isText) = false) ∧ AreNormal rest))

end

structure OpenBlock.IsNormal (opened : OpenBlock) : Prop where
  name : isIdentifier opened.name.toList = true
  before : AreNormal opened.before

theorem areNormal_iff (nodes : List Node) :
    AreNormal nodes ↔ (∀ node ∈ nodes, node.IsNormal) ∧
      nodes.IsChain fun node next => (node.isText && next.isText) = false := by
  induction nodes with
  | nil => simp [AreNormal]
  | cons node rest ih =>
    rw [AreNormal, ih, List.forall_mem_cons, List.isChain_cons, ← and_assoc, and_and_and_comm]

/-- The nodes of an open block are found with the latest first, which is normal form just as well. -/
theorem AreNormal.reverse {nodes : List Node} (h : AreNormal nodes) : AreNormal nodes.reverse := by
  rw [areNormal_iff] at h ⊢
  refine ⟨fun node hm => h.1 node (List.mem_reverse.mp hm), List.isChain_reverse.mpr ?_⟩
  exact h.2.imp fun node next ha => (Bool.and_comm _ _).trans ha

theorem AreNormal.cons_of_not_isText {node : Node} {nodes : List Node} (h : AreNormal nodes)
    (hn : node.IsNormal) (ht : node.isText = false) : AreNormal (node :: nodes) :=
  ⟨hn, fun next _ => by rw [ht, Bool.false_and], h⟩

namespace Tag

theorem isWritable_of_read {content : List Char} {mark : Tag} (h : read content = .ok mark)
    (hc : ¬ closeBraces <:+: content) (hk : ∀ keyword, mark ≠ .closing keyword) :
    mark.IsWritable := by
  cases (read_eq_ok_iff content mark).mp h with
  | value name => exact (congrArg isIdentifier String.toList_ofList).trans name
  | opening _ _ name => exact (congrArg isIdentifier String.toList_ofList).trans name
  | closing => exact absurd rfl (hk _)
  | @inclusion rest hm hn =>
    have hi : trim rest <:+: content := by
      refine (trim_isInfix rest).trans (List.IsInfix.trans ?_ (trim_isInfix content))
      rw [hm]
      exact (List.suffix_cons '>' rest).isInfix
    show IsTemplateName (String.ofList (trim rest)).toList
    rw [String.toList_ofList]
    exact ⟨hn, isWhite_of_mem_head?_trim, isWhite_of_mem_getLast?_trim, fun hb => hc (hb.trans hi)⟩

end Tag

namespace CursorLoop

theorem areNormal_text_cons_iff (content : String) (nodes : List Node) :
    AreNormal (.text content :: nodes) ↔
      content ≠ "" ∧ IsTextless nodes ∧ AreNormal nodes := by
  have ht : (∀ next ∈ nodes.head?, (Node.isText (.text content) && next.isText) = false) ↔
      IsTextless nodes := by
    cases nodes with
    | nil => simp [IsTextless]
    | cons node rest => cases node <;> simp [IsTextless, Node.isText]
  rw [AreNormal, Node.IsNormal, ht]

theorem areNormal_pushText {nodes : List Node} (h : AreNormal nodes) (cs : List Char) :
    AreNormal (pushText nodes cs) := by
  unfold pushText
  split
  · exact h
  · rename_i hc
    split
    · rename_i earlier rest
      rw [areNormal_text_cons_iff] at h ⊢
      exact ⟨by simp [h.1], h.2⟩
    · rename_i ht
      rw [areNormal_text_cons_iff]
      refine ⟨by simpa using hc, fun content hh => ?_, h⟩
      obtain ⟨rest, he⟩ := List.head?_eq_some_iff.mp hh
      exact ht content rest he

theorem Stands.exists_content {text read rest : List Char} {cursor : Nat} {atStart dropFirst : Bool}
    (h : Stands text cursor read rest atStart dropFirst) {turn : Turn}
    (hs : search text cursor = some (.tag turn)) :
    ∃ content, Tag.read content = .ok turn.mark ∧ ¬ closeBraces <:+: content := by
  obtain ⟨gap, inner, ho⟩ | hn := exists_firstAt_or_not_isInfix openBraces rest
  · obtain ⟨content, after, hc⟩ | hn := exists_firstAt_or_not_isInfix closeBraces inner
    · have hf := hs.symm.trans (h.search_closed ho hc)
      cases hr : Tag.read content with
      | error fault =>
        rw [hr] at hf
        cases hf
      | ok mark =>
        rw [hr] at hf
        cases hf
        exact ⟨content, hr, hc.not_isInfix (List.cons_ne_nil _ _)⟩
    · cases hs.symm.trans (h.search_unterminated ho hn)
  · cases hs.symm.trans (h.search_last hn)

/-- A tag with a proper name leaves normal form where it is put, be it in the block that is open, in
one that it opens or, with the block that it closes, in the one around. -/
theorem isNormal_of_enter {span : Span} {mark : Tag} {stack stack' : List OpenBlock}
    {nodes nodes' : List Node} (h : enter span mark stack nodes = .ok (stack', nodes'))
    (hm : (∀ keyword, mark ≠ .closing keyword) → mark.IsWritable)
    (hs : ∀ opened ∈ stack, opened.IsNormal) (hn : AreNormal nodes) :
    (∀ opened ∈ stack', opened.IsNormal) ∧ AreNormal nodes' := by
  cases mark with
  | value name | inclusion template =>
    cases h
    exact ⟨hs, hn.cons_of_not_isText (hm nofun) rfl⟩
  | opening kind name =>
    cases h
    exact ⟨List.forall_mem_cons.mpr ⟨⟨hm nofun, hn⟩, hs⟩, trivial⟩
  | closing keyword =>
    cases stack with
    | nil => cases h
    | cons opened stack =>
      rw [enter] at h
      split at h
      · cases h
        obtain ⟨ho, hs⟩ := List.forall_mem_cons.mp hs
        exact ⟨hs, ho.before.cons_of_not_isText ⟨ho.name, hn.reverse⟩ rfl⟩
      · cases h

namespace Progress

structure IsNormal (progress : Progress) : Prop where
  stack : ∀ opened ∈ progress.stack, opened.IsNormal
  nodes : AreNormal progress.nodes

theorem isNormal_start : start.IsNormal := ⟨List.forall_mem_nil _, trivial⟩

variable {text : String} {progress later : Progress}

theorem IsNormal.advance {read rest : List Char} {atStart dropFirst : Bool}
    (h : progress.IsNormal) (ht : progress.Tracks text read rest atStart dropFirst)
    (ha : progress.Advances text later) : later.IsNormal := by
  obtain ⟨turn, hs, -, he⟩ := ha.exists_turn
  obtain ⟨content, hr, hc⟩ := ht.stands.exists_content hs
  obtain ⟨hstack, hnodes⟩ := isNormal_of_enter he (Tag.isWritable_of_read hr hc) h.stack
    (areNormal_pushText h.nodes turn.kept)
  exact ⟨hstack, hnodes⟩

/-- Run: all open blocks are in normal form wherever the loop comes to. -/
theorem isNormal_of_reaches (h : start.Reaches text progress) : progress.IsNormal := by
  induction h with
  | refl => exact isNormal_start
  | tail before advances ih =>
    obtain ⟨_, _, _, _, ht⟩ := exists_tracks before
    exact ih.advance ht advances

theorem IsNormal.areNormal_of_finished {nodes : List Node} (h : progress.IsNormal)
    (hf : progress.step text = some (.finished (.ok nodes))) : AreNormal nodes := by
  obtain ⟨found, -, he⟩ := Option.map_eq_some_iff.mp hf
  cases found with
  | last kept =>
    have hb : build [] progress.stack (pushText progress.nodes kept) = .ok nodes :=
      Outcome.finished.inj he
    cases hs : progress.stack with
    | nil =>
      rw [hs] at hb
      cases hb
      exact (areNormal_pushText h.nodes kept).reverse
    | cons opened stack =>
      rw [hs] at hb
      cases hb
  | wrong mistake => cases he
  | tag turn =>
    rw [after] at he
    cases hn : enter ⟨turn.start, turn.stop⟩ turn.mark progress.stack
      (pushText progress.nodes turn.kept) with
    | error mistake | ok opened =>
      rw [hn] at he
      cases he

end Progress

end CursorLoop

/-- A tree that a text is parsed as is in normal form at every level. -/
theorem areNormal_of_parse {text : String} {nodes : List Node} (h : parse text = .ok nodes) :
    AreNormal nodes := by
  obtain ⟨last, hr, hf⟩ := (CursorLoop.Progress.tracks_start text).exists_finished
  rw [h] at hf
  exact (CursorLoop.Progress.isNormal_of_reaches hr).areNormal_of_finished hf

theorem areNormal_of_parse_list :
    let nodes := [.text "a\n", .block .each "xs"
      [.value "y", .text "-", .inclusion r"n{ }", .text "\n", .block .when "y" []]]
    parse ("a\n  " ++ braced "#each xs" ++ "\t\n" ++ braced " y" ++ "-" ++ braced r"> n{ } " ++
      "\n" ++ braced "#if\ty" ++ "\r\n " ++ braced "/if" ++ "\n" ++ braced "/ each") = .ok nodes ∧
    AreNormal nodes := by
  intro nodes
  have hp : parse ("a\n  " ++ braced "#each xs" ++ "\t\n" ++ braced " y" ++ "-" ++
      braced r"> n{ } " ++ "\n" ++ braced "#if\ty" ++ "\r\n " ++ braced "/if" ++ "\n" ++
      braced "/ each") = .ok nodes := rfl
  exact ⟨hp, areNormal_of_parse hp⟩

example : ¬ AreNormal [.block .when "x" [.value "y", .text "a", .text "b"]] := by decide

end PointerHelpers.Template
