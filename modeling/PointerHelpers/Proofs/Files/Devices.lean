import PointerHelpers.Files.Buffer
import PointerHelpers.Proofs.Output.Delivery

namespace PointerHelpers.Files

open Output Template

/-- With so many bytes pending, the texts of the rendering do not all find room in the buffer, or
one of them goes past it. -/
def Overflows (pending : Nat) (rendering : Rendering) : Prop :=
  bufferBytes < pending + rendering.output.utf8ByteSize ∨
    ∃ text ∈ rendering.pieces, bufferBytes ≤ text.utf8ByteSize

instance (pending : Nat) (rendering : Rendering) : Decidable (Overflows pending rendering) :=
  inferInstanceAs (Decidable (_ ∨ _))

def Device.ending : Device → Rendering → Except (DeliveryError SystemError) Unit
  | .null, rendering => Output.ending rendering
  | .full, rendering =>
    if Overflows 0 rendering ∨ rendering.fault = none ∧ rendering.output ≠ "" then
      .error (.output .noSpace)
    else Output.ending rendering

theorem utf8ByteSize_output_piece (text : String) (rest : Unit → Rendering) :
    (Rendering.piece text rest).output.utf8ByteSize =
      text.utf8ByteSize + (rest ()).output.utf8ByteSize := by
  rw [output_piece, String.utf8ByteSize_append]

theorem overflows_piece_iff (pending : Nat) (text : String) (rest : Unit → Rendering) :
    Overflows pending (.piece text rest) ↔
      (bufferBytes < pending + text.utf8ByteSize ∨ bufferBytes ≤ text.utf8ByteSize) ∨
        Overflows (pending + text.utf8ByteSize) (rest ()) := by
  rw [Overflows, Overflows, utf8ByteSize_output_piece, Rendering.pieces, List.exists_mem_cons_iff]
  by_cases hlarge : ∃ later ∈ (rest ()).pieces, bufferBytes ≤ later.utf8ByteSize
  · simp [hlarge]
  · simp only [hlarge, or_false]
    omega

theorem not_overflows_of_pieces_eq_nil {pending : Nat} {rendering : Rendering}
    (hp : pending ≤ bufferBytes) (h : rendering.pieces = []) : ¬ Overflows pending rendering := by
  simp only [Overflows, Rendering.output, h, String.join_nil, String.utf8ByteSize_empty,
    List.not_mem_nil, false_and, exists_false, or_false]
  omega

theorem utf8ByteSize_le_of_mem_pieces {rendering : Rendering} {text : String}
    (h : text ∈ rendering.pieces) : text.utf8ByteSize ≤ rendering.output.utf8ByteSize := by
  induction rendering with
  | done | fail _ => cases h
  | piece first rest ih =>
    rw [utf8ByteSize_output_piece]
    obtain he | hlater := List.mem_cons.mp h
    · rw [he]
      omega
    · have hle := ih () hlater
      omega

theorem overflows_of_lt {rendering : Rendering}
    (h : bufferBytes < rendering.output.utf8ByteSize) : Overflows 0 rendering :=
  .inl (by omega)

theorem Overflows.bufferBytes_le {rendering : Rendering} (h : Overflows 0 rendering) :
    bufferBytes ≤ rendering.output.utf8ByteSize := by
  obtain hsum | ⟨text, ht, hlarge⟩ := h
  · omega
  · exact hlarge.trans (utf8ByteSize_le_of_mem_pieces ht)

/-- A text that fills the buffer by itself goes past it, but texts that fill it together do not. -/
theorem overflows_iff_of_eq {rendering : Rendering}
    (h : rendering.output.utf8ByteSize = bufferBytes) :
    Overflows 0 rendering ↔ ∃ text ∈ rendering.pieces, bufferBytes ≤ text.utf8ByteSize :=
  or_iff_right (by omega)

theorem Device.ending_full_eq_ok_iff (rendering : Rendering) :
    full.ending rendering = .ok () ↔ rendering.fault = none ∧ rendering.output = "" := by
  rw [ending]
  by_cases hlost : Overflows 0 rendering ∨ rendering.fault = none ∧ rendering.output ≠ ""
  · rw [if_pos hlost]
    refine iff_of_false (by simp) ?_
    rintro ⟨hf, ho⟩
    obtain hover | ⟨-, hne⟩ := hlost
    · have hle := hover.bufferBytes_le
      rw [ho, String.utf8ByteSize_empty, bufferBytes] at hle
      omega
    · exact hne ho
  · rw [if_neg hlost, ending_eq_ok_iff]
    rw [not_or, not_and, not_ne_iff] at hlost
    exact ⟨fun hf => ⟨hf, hlost.2 hf⟩, And.left⟩

theorem Device.ending_full_of_ne {rendering : Rendering} (hf : rendering.fault = none)
    (ho : rendering.output ≠ "") : full.ending rendering = .error (.output .noSpace) := by
  rw [ending, if_pos (.inr ⟨hf, ho⟩)]

theorem Device.ending_full_of_overflows {rendering : Rendering} (h : Overflows 0 rendering) :
    full.ending rendering = .error (.output .noSpace) := by
  rw [ending, if_pos (.inl h)]

theorem Device.ending_full_of_not_overflows {rendering : Rendering} {fault : RenderFault}
    (hf : rendering.fault = some fault) (h : ¬ Overflows 0 rendering) :
    full.ending rendering = .error (.rendering fault) := by
  rw [ending, if_neg (by simp [h, hf]), ending_eq_error_iff, hf]

namespace Buffer

variable {buffer : Buffer}

section Null

variable (h : buffer.system.get? buffer.file = some (.device .null))

include h

theorem append_null (text : String) :
    buffer.system.append buffer.file text = .ok buffer.system := by
  rw [FileSystem.append, h]

theorem flush_null : buffer.flush = .ok { buffer with pending := "" } := by
  rw [flush, append_null h]

theorem exists_makeRoom_null (text : String) :
    ∃ pending, (if buffer.room < text.utf8ByteSize then buffer.flush else .ok buffer) =
      .ok { buffer with pending } := by
  split
  · exact ⟨"", flush_null h⟩
  · exact ⟨buffer.pending, rfl⟩

theorem exists_write_null (text : String) :
    ∃ pending, buffer.write text = .ok { buffer with pending } := by
  rw [write]
  split
  · exact ⟨_, rfl⟩
  · obtain ⟨pending, hroom⟩ := exists_makeRoom_null h text
    rw [hroom]
    by_cases hs : text.utf8ByteSize < bufferBytes
    · simp only [if_pos hs]
      exact ⟨_, rfl⟩
    · simp only [if_neg hs, append_null h]
      exact ⟨_, rfl⟩

theorem exists_writeAll_null (rendering : Rendering) :
    ∃ pending, buffer.writeAll rendering =
      ({ buffer with pending }, Output.ending rendering) := by
  induction rendering generalizing buffer with
  | done | fail _ => exact ⟨buffer.pending, rfl⟩
  | piece text rest ih =>
    obtain ⟨pending, hw⟩ := exists_write_null h text
    rw [writeAll, hw]
    exact ih () h

theorem deliver_null (rendering : Rendering) :
    buffer.deliver rendering = (buffer.system, Output.ending rendering) := by
  obtain ⟨pending, hw⟩ := exists_writeAll_null h rendering
  have hf : ({ buffer with pending } : Buffer).flush = .ok { buffer with pending := "" } :=
    flush_null h
  rw [deliver, hw]
  cases Output.ending (ε := SystemError) rendering with
  | error error => simp only [close, hf]
  | ok _ => simp only [hf]

end Null

section Full

variable (h : buffer.system.get? buffer.file = some (.device .full))

include h

theorem append_full (text : String) :
    buffer.system.append buffer.file text =
      if text = "" then .ok buffer.system else .error .noSpace := by
  rw [FileSystem.append, h]

theorem flush_full :
    buffer.flush = if buffer.pending = "" then .ok buffer else .error .noSpace := by
  rw [flush, append_full h]
  by_cases hp : buffer.pending = ""
  · rw [if_pos hp, if_pos hp]
    simp only [← hp]
  · rw [if_neg hp, if_neg hp]

/-- Step: a text is kept if there is room for it, and is refused otherwise. -/
theorem write_full (hp : buffer.pending.utf8ByteSize ≤ bufferBytes) (text : String) :
    buffer.write text =
      if bufferBytes < buffer.pending.utf8ByteSize + text.utf8ByteSize ∨
          bufferBytes ≤ text.utf8ByteSize then .error .noSpace
      else .ok { buffer with pending := buffer.pending ++ text } := by
  have hbytes : 0 < bufferBytes := by decide
  have hempty : buffer.pending = "" ↔ buffer.pending.utf8ByteSize = 0 :=
    String.utf8ByteSize_eq_zero_iff.symm
  rw [write, room]
  by_cases hfit : bufferBytes < buffer.pending.utf8ByteSize + text.utf8ByteSize ∨
      bufferBytes ≤ text.utf8ByteSize
  · rw [if_pos hfit, if_neg (by simp; omega)]
    by_cases hpending : buffer.pending = ""
    · -- Nothing is pending, so that the text goes past the buffer.
      have hzero := hempty.mp hpending
      have ht : ¬ text = "" := by
        intro he
        rw [he, String.utf8ByteSize_empty] at hfit
        omega
      rw [flush_full h, if_pos hpending, ite_self]
      simp only [if_neg (show ¬ text.utf8ByteSize < bufferBytes by omega), append_full h, if_neg ht]
    · have hne : buffer.pending.utf8ByteSize ≠ 0 := mt hempty.mpr hpending
      rw [flush_full h, if_neg hpending, if_pos (by omega)]
  · rw [if_neg hfit, if_pos (by simp; omega)]

theorem exists_writeAll_full (hp : buffer.pending.utf8ByteSize ≤ bufferBytes)
    (rendering : Rendering) :
    ∃ pending,
      buffer.writeAll rendering = ({ buffer with pending },
        if Overflows buffer.pending.utf8ByteSize rendering then .error (.output .noSpace)
        else Output.ending rendering) ∧
      (¬ Overflows buffer.pending.utf8ByteSize rendering →
        pending = buffer.pending ++ rendering.output) := by
  induction rendering generalizing buffer with
  | done | fail _ =>
    rw [if_neg (not_overflows_of_pieces_eq_nil hp rfl)]
    refine ⟨buffer.pending, rfl, fun _ => ?_⟩
    rw [Rendering.output, Rendering.pieces, String.join_nil, String.append_empty]
  | piece text rest ih =>
    simp only [overflows_piece_iff]
    rw [writeAll, write_full h hp, ending_piece, output_piece, ← String.append_assoc]
    by_cases hfit : bufferBytes < buffer.pending.utf8ByteSize + text.utf8ByteSize ∨
        bufferBytes ≤ text.utf8ByteSize
    · simp only [hfit, if_true, true_or, not_true, false_implies]
      exact ⟨buffer.pending, rfl, trivial⟩
    · simp only [hfit, if_false, false_or]
      let kept : Buffer := { buffer with pending := buffer.pending ++ text }
      have hkept : kept.system.get? kept.file = some (.device .full) := h
      have hsize : kept.pending.utf8ByteSize ≤ bufferBytes := by
        rw [String.utf8ByteSize_append]
        omega
      rw [← String.utf8ByteSize_append]
      exact ih () hkept hsize

/-- What is still pending is refused once more when the buffer is given up, without a word. -/
theorem close_full : buffer.close = buffer.system := by
  rw [close, flush_full h]
  by_cases hp : buffer.pending = ""
  · rw [if_pos hp]
  · rw [if_neg hp]

theorem deliver_full (hp : buffer.pending = "") (rendering : Rendering) :
    buffer.deliver rendering = (buffer.system, Device.full.ending rendering) := by
  have hsize : buffer.pending.utf8ByteSize = 0 := String.utf8ByteSize_eq_zero_iff.mpr hp
  obtain ⟨pending, hw, hpending⟩ := exists_writeAll_full h (by omega) rendering
  have hclose : ({ buffer with pending } : Buffer).close = buffer.system := close_full h
  rw [hsize] at hw hpending
  rw [deliver, hw, Device.ending]
  by_cases ho : Overflows 0 rendering
  · rw [if_pos ho, if_pos (.inl ho)]
    simp only [hclose]
  · have hflush : ({ buffer with pending } : Buffer).flush =
        if pending = "" then .ok { buffer with pending } else .error .noSpace := flush_full h
    rw [hpending ho, hp, String.empty_append] at hflush hclose
    rw [if_neg ho, hpending ho, hp, String.empty_append, Output.ending]
    cases hf : rendering.fault with
    | some fault =>
      rw [if_neg (by simp [ho])]
      simp only [hclose]
    | none =>
      simp only [hflush]
      by_cases he : rendering.output = ""
      · rw [if_pos he, if_neg (by simp [ho, he])]
      · rw [if_neg he, if_pos (by simp [he])]

end Full

/-- A delivery to a device leaves the file system as it is, and ends in a way that depends on the
device and the rendering alone. -/
theorem deliver_device {system : FileSystem} {location : Location} {device : Device}
    (h : system.get? location = some (.device device)) (rendering : Rendering) :
    (Buffer.mk system location "").deliver rendering = (system, device.ending rendering) := by
  cases device with
  | null => exact deliver_null h rendering
  | full => exact deliver_full h rfl rendering

end Buffer

end PointerHelpers.Files
