import Mathlib.Order.Basic
import PointerHelpers.Output.Receiver
import PointerHelpers.Proofs.Template.RenderedText
import PointerHelpers.Proofs.Text.Utf8

namespace PointerHelpers.Output

open Template Text

theorem bytes_append (first second : String) :
    bytes (first ++ second) = bytes first ++ bytes second := by
  rw [bytes, String.toUTF8_eq_toByteArray, String.toByteArray_append,
    ByteArray.toList_data_append]
  rfl

theorem bytes_empty : bytes "" = [] := rfl

theorem bytes_eq_flatMap (text : String) :
    bytes text = text.toList.flatMap String.utf8EncodeChar := by
  rw [bytes, String.toUTF8_eq_toByteArray, ← String.utf8Encode_toList, List.utf8Encode,
    List.toList_data_toByteArray]

theorem decode_bytes (text : String) : Utf8.decode (bytes text) = text := by
  rw [Utf8.decode, bytes_eq_flatMap, Utf8.decodeAfter_flatMap, String.ofList_toList,
    String.empty_append]

example : Utf8.decode [0x61, 0xE2, 0x82, 0x62, 0x80] = "a\uFFFDb\uFFFD" := by cbv

theorem bytes_injective : Function.Injective bytes := by
  intro first second h
  rw [← decode_bytes first, h, decode_bytes]

def ending {ε : Type} (rendering : Rendering) : Except (DeliveryError ε) Unit :=
  match rendering.fault with
  | none => .ok ()
  | some fault => .error (.rendering fault)

theorem ending_piece {ε : Type} (text : String) (rest : Unit → Rendering) :
    ending (ε := ε) (.piece text rest) = ending (rest ()) := rfl

theorem ending_eq_ok_iff {ε : Type} (rendering : Rendering) :
    ending (ε := ε) rendering = .ok () ↔ rendering.fault = none := by
  rw [ending]
  cases rendering.fault <;> simp

theorem ending_eq_error_iff {ε : Type} (rendering : Rendering) (fault : RenderFault) :
    ending (ε := ε) rendering = .error (.rendering fault) ↔ rendering.fault = some fault := by
  rw [ending]
  cases rendering.fault <;> simp

theorem output_piece (text : String) (rest : Unit → Rendering) :
    (Rendering.piece text rest).output = text ++ (rest ()).output := by
  rw [Rendering.output, Rendering.pieces, String.join_cons, Rendering.output]

namespace Receiver

variable {receiver : Receiver} {content : List UInt8}

theorem takeAll_nil (receiver : Receiver) : receiver.takeAll [] = ([], .ok receiver) := by
  rw [takeAll, if_pos rfl]

theorem takeAll_of_next_eq_zero (hc : content ≠ []) (hn : receiver.next = some 0) :
    receiver.takeAll content = ([], .error receiver.refusal) := by
  rw [takeAll, if_neg hc, hn]

theorem takeAll_of_next_eq_succ {most : Nat} (hc : content ≠ [])
    (hn : receiver.next = some (most + 1)) :
    receiver.takeAll content =
      let taken := content.take (most + 1)
      let later := (receiver.after taken.length).takeAll (content.drop (most + 1))
      (taken ++ later.1, later.2) := by
  rw [takeAll, if_neg hc, hn]

theorem takeAll_unbounded {chunk : Option Nat} (hc : chunk ≠ some 0) (refusal : Refusal)
    (content : List UInt8) :
    (Receiver.mk none chunk refusal).takeAll content = (content, .ok ⟨none, chunk, refusal⟩) := by
  induction hn : content.length using Nat.strong_induction_on generalizing content with
  | h n ih =>
    subst hn
    by_cases he : content = []
    · rw [he, takeAll_nil]
    have hp : 0 < content.length := List.length_pos_iff.mpr he
    match chunk, hc with
    | none, _ =>
      rw [takeAll, if_neg he]
      rfl
    | some (most + 1), _ =>
      have hless : (content.drop (most + 1)).length < content.length := by
        rw [List.length_drop]
        omega
      rw [takeAll_of_next_eq_succ he rfl]
      simp only [after, Option.map_none]
      rw [ih _ hless _ rfl, List.take_append_drop]

theorem takeAll_limited {chunk : Nat} (hc : 1 ≤ chunk) (limit : Nat) (refusal : Refusal)
    (content : List UInt8) :
    (Receiver.mk (some limit) (some chunk) refusal).takeAll content =
      (content.take limit,
        if content.length ≤ limit then
          .ok ⟨some (limit - content.length), some chunk, refusal⟩
        else .error refusal) := by
  -- The induction is on the bytes that are left, of which every call takes at least one.
  induction hn : content.length using Nat.strong_induction_on generalizing content limit with
  | h n ih =>
    subst hn
    by_cases he : content = []
    · rw [he, takeAll_nil, List.take_nil, List.length_nil, if_pos (Nat.zero_le _), Nat.sub_zero]
    have hp : 0 < content.length := List.length_pos_iff.mpr he
    have hnext : (Receiver.mk (some limit) (some chunk) refusal).next = some (min limit chunk) :=
      rfl
    cases hm : min limit chunk with
    | zero =>
      have hl : limit = 0 := by omega
      rw [takeAll_of_next_eq_zero he (hnext.trans (by rw [hm])), hl, List.take_zero,
        if_neg (by omega)]
    | succ most =>
      have hsplit : content.take (most + 1) ++ content.drop (most + 1) = content :=
        List.take_append_drop _ _
      have hlength := congrArg List.length hsplit
      rw [List.length_append] at hlength
      have htaken : (content.take (most + 1)).length ≤ most + 1 := List.length_take_le _ _
      have hless : (content.drop (most + 1)).length < content.length := by
        rw [List.length_drop]
        omega
      rw [takeAll_of_next_eq_succ he (hnext.trans (by rw [hm]))]
      simp only [after, Option.map_some]
      rw [ih _ hless _ _ rfl]
      have hkeep : (content.take (most + 1)).take limit = content.take (most + 1) :=
        List.take_of_length_le (by omega)
      have htake : content.take (most + 1) ++
          (content.drop (most + 1)).take (limit - (content.take (most + 1)).length) =
            content.take limit := by
        conv_rhs => rw [← hsplit, List.take_append, hkeep]
      rw [htake, Nat.sub_sub, hlength]
      by_cases hfit : content.length ≤ limit
      · rw [if_pos hfit, if_pos (by omega)]
      · rw [if_neg hfit, if_neg (by omega)]

theorem deliver_piece (receiver : Receiver) (text : String) (rest : Unit → Rendering) :
    receiver.deliver (.piece text rest) =
      match receiver.takeAll (bytes text) with
      | (taken, .error refusal) => (taken, .error (.output refusal))
      | (taken, .ok receiver) =>
        (taken ++ (receiver.deliver (rest ())).1, (receiver.deliver (rest ())).2) := rfl

theorem deliver_ends (receiver : Receiver) (rendering : Rendering) :
    (receiver.deliver rendering).2 = ending rendering ∨
      ∃ refusal, (receiver.deliver rendering).2 = .error (.output refusal) := by
  induction rendering generalizing receiver with
  | done | fail _ => exact .inl rfl
  | piece text rest ih =>
    rw [deliver_piece, ending_piece]
    rcases receiver.takeAll (bytes text) with ⟨taken, refusal | later⟩
    · exact .inr ⟨refusal, rfl⟩
    · exact ih () later

theorem fault_of_deliver (receiver : Receiver) {rendering : Rendering} {fault : RenderFault}
    (h : (receiver.deliver rendering).2 = .error (.rendering fault)) :
    rendering.fault = some fault := by
  obtain he | ⟨refusal, he⟩ := receiver.deliver_ends rendering
  · exact (ending_eq_error_iff _ _).mp (he.symm.trans h)
  · cases he.symm.trans h

theorem fault_eq_none_of_deliver (receiver : Receiver) {rendering : Rendering}
    (h : (receiver.deliver rendering).2 = .ok ()) : rendering.fault = none := by
  obtain he | ⟨refusal, he⟩ := receiver.deliver_ends rendering
  · exact (ending_eq_ok_iff _).mp (he.symm.trans h)
  · cases he.symm.trans h

theorem deliver_unbounded {chunk : Option Nat} (hc : chunk ≠ some 0) (refusal : Refusal)
    (rendering : Rendering) :
    (Receiver.mk none chunk refusal).deliver rendering =
      (bytes rendering.output, ending rendering) := by
  induction rendering with
  | done | fail _ => rfl
  | piece text rest ih =>
    rw [deliver_piece, takeAll_unbounded hc, output_piece, bytes_append, ending_piece]
    simp only [ih]

theorem deliver_unlimited (rendering : Rendering) :
    unlimited.deliver rendering = (bytes rendering.output, ending rendering) :=
  deliver_unbounded (by simp) .closed rendering

theorem deliver_limited {chunk : Nat} (hc : 1 ≤ chunk) (limit : Nat) (refusal : Refusal)
    (rendering : Rendering) :
    (Receiver.mk (some limit) (some chunk) refusal).deliver rendering =
      ((bytes rendering.output).take limit,
        if (bytes rendering.output).length ≤ limit then ending rendering
        else .error (.output refusal)) := by
  induction rendering generalizing limit with
  | done | fail _ =>
    rw [Rendering.output, Rendering.pieces, String.join_nil, bytes_empty, List.take_nil,
      List.length_nil, if_pos (Nat.zero_le _)]
    rfl
  | piece text rest ih =>
    rw [deliver_piece, takeAll_limited hc, output_piece, bytes_append, ending_piece,
      List.take_append, List.length_append]
    by_cases hfit : (bytes text).length ≤ limit
    · rw [if_pos hfit, List.take_of_length_le hfit]
      simp only [ih]
      have hrest : (bytes (rest ()).output).length ≤ limit - (bytes text).length ↔
          (bytes text).length + (bytes (rest ()).output).length ≤ limit := by omega
      rw [if_congr hrest rfl rfl]
    · rw [if_neg hfit, if_neg (by omega), Nat.sub_eq_zero_of_le (by omega), List.take_zero,
        List.append_nil]

end Receiver

theorem textAfter_eq (before : String) (rendering : Rendering) :
    rendering.textAfter before =
      match rendering.fault with
      | none => .ok (before ++ rendering.output)
      | some fault => .error fault := by
  induction rendering generalizing before with
  | done => simp [Rendering.textAfter, Rendering.fault, Rendering.output, Rendering.pieces]
  | fail fault => rfl
  | piece text rest ih =>
    rw [Rendering.textAfter, ih, output_piece, String.append_assoc]
    rfl

theorem collect_eq_text (rendering : Rendering) :
    collect rendering = rendering.text.mapError .rendering := by
  rw [collect, Receiver.deliver_unlimited, Rendering.text, textAfter_eq, ending]
  cases rendering.fault with
  | none =>
    simp only [decode_bytes, String.empty_append]
    rfl
  | some fault => rfl

/-- Of a rendering, a receiver with a limit takes the first bytes that a receiver without limits
takes, and ends like that one unless there are more. The bytes gathered are those of the text that
is read from them. -/
theorem render_to_receivers (set : TemplateSet) (name : String) (scope : Scope) (limit : Nat)
    {chunk : Nat} (hc : 1 ≤ chunk) (refusal : Refusal) :
    let rendering := set.render name scope
    let whole := Receiver.unlimited.deliver rendering
    (Receiver.mk (some limit) (some chunk) refusal).deliver rendering =
      (whole.1.take (min limit whole.1.length),
        if whole.1.length ≤ limit then whole.2 else .error (.output refusal)) ∧
    (∀ text, collect rendering = .ok text ↔ whole.2 = .ok () ∧ whole.1 = bytes text) ∧
    (∀ error, collect rendering = .error error ↔ whole.2 = .error error) ∧
    bytes (Utf8.decode whole.1) = whole.1 ∧
    collect rendering = rendering.text.mapError .rendering := by
  intro rendering whole
  have hw : whole = (bytes rendering.output, ending rendering) :=
    Receiver.deliver_unlimited rendering
  have hcollect : collect rendering = (ending rendering).map fun _ => rendering.output := by
    rw [collect, Receiver.deliver_unlimited]
    cases ending rendering with
    | error error => rfl
    | ok _ =>
      simp only [decode_bytes]
      rfl
  refine ⟨?_, fun text => ?_, fun error => ?_, ?_, collect_eq_text rendering⟩
  · rw [hw, Receiver.deliver_limited hc, ← List.take_eq_take_min]
  · rw [hcollect, hw]
    cases ending rendering with
    | error error => simp [Except.map]
    | ok _ => simp [Except.map, bytes_injective.eq_iff]
  · rw [hcollect, hw]
    cases ending rendering with
    | error error => simp [Except.map]
    | ok _ => simp [Except.map]
  · rw [hw, decode_bytes]

/-- The limit falls into the second character, whose first byte is still taken. -/
theorem render_to_receivers_between_bytes :
    let set : TemplateSet := ⟨[("page", [.text "n", .value "accent", .inclusion "missing"])]⟩
    let scope := Scope.empty.text "accent" "é"
    1 ≤ 1 ∧
    (Receiver.mk (some 2) (some 1) .closed).deliver (set.render "page" scope) =
      ([0x6E, 0xC3], .error (.output .closed)) ∧
    (Receiver.mk (some 3) (some 1) .closed).deliver (set.render "page" scope) =
      ([0x6E, 0xC3, 0xA9], .error (.rendering (.unknownTemplate "missing"))) := by
  intro set scope
  have hw : Receiver.unlimited.deliver (set.render "page" scope) =
      ([0x6E, 0xC3, 0xA9], .error (.rendering (.unknownTemplate "missing"))) := by
    rw [Receiver.deliver_unlimited]
    decide +kernel
  have h₂ := (render_to_receivers set "page" scope 2 (Nat.le_refl 1) .closed).1
  have h₃ := (render_to_receivers set "page" scope 3 (Nat.le_refl 1) .closed).1
  rw [hw] at h₂ h₃
  exact ⟨Nat.le_refl 1, h₂, h₃⟩

end PointerHelpers.Output
