import PointerHelpers.Files.Buffer
import PointerHelpers.Proofs.Files.FileSystem
import PointerHelpers.Proofs.Output.Delivery

namespace PointerHelpers.Files

open Output Template

namespace Content

variable (content : Content)

theorem append_empty : content.append "" = content := by
  rw [append, String.toUTF8_eq_toByteArray, String.toByteArray_empty, ByteArray.append_empty]

theorem append_append (first second : String) :
    content.append (first ++ second) = (content.append first).append second := by
  simp only [append, String.toUTF8_eq_toByteArray, String.toByteArray_append,
    ByteArray.append_assoc]

end Content

namespace Buffer

variable {buffer : Buffer} {base : FileSystem} {location : Location} {content : Content}

/-- The buffer writes to a file of the file system, and what the file holds and what is pending make
up this content together. -/
structure Fills (buffer : Buffer) (base : FileSystem) (location : Location) (content : Content) :
    Prop where
  file : buffer.file = location
  stored : ∃ stored, buffer.system = base.put location (.file stored) ∧
    stored.append buffer.pending = content

theorem Fills.system_eq (h : buffer.Fills base location content) (hp : buffer.pending = "") :
    buffer.system = base.put location (.file content) := by
  obtain ⟨stored, hs, hc⟩ := h.stored
  rw [hs, ← hc, hp, Content.append_empty]

theorem Fills.append_system (h : buffer.Fills base location content) (hp : buffer.pending = "")
    (text : String) :
    buffer.system.append buffer.file text =
      .ok (base.put location (.file (content.append text))) := by
  have hs := h.system_eq hp
  have hg : buffer.system.get? buffer.file = some (.file content) := by
    rw [h.file, hs, FileSystem.get?_put_self]
  rw [FileSystem.append_of_file hg, h.file, hs, FileSystem.put_put]

theorem exists_flush (h : buffer.Fills base location content) :
    ∃ flushed, buffer.flush = .ok flushed ∧ flushed.Fills base location content ∧
      flushed.pending = "" := by
  obtain ⟨stored, hs, hc⟩ := h.stored
  have hg : buffer.system.get? buffer.file = some (.file stored) := by
    rw [h.file, hs, FileSystem.get?_put_self]
  have hf : buffer.flush = .ok ⟨base.put location (.file content), location, ""⟩ := by
    rw [flush, FileSystem.append_of_file hg, h.file, hs, FileSystem.put_put, hc]
  exact ⟨_, hf, ⟨rfl, content, rfl, content.append_empty⟩, rfl⟩

theorem Fills.push (h : buffer.Fills base location content) (text : String) :
    Fills { buffer with pending := buffer.pending ++ text } base location
      (content.append text) := by
  obtain ⟨stored, hs, hc⟩ := h.stored
  refine ⟨h.file, stored, hs, ?_⟩
  rw [Content.append_append, hc]

theorem exists_makeRoom (h : buffer.Fills base location content) (text : String)
    (hlarge : ¬ (text.utf8ByteSize ≤ buffer.room ∧ text.utf8ByteSize < bufferBytes)) :
    ∃ emptied, (if buffer.room < text.utf8ByteSize then buffer.flush else .ok buffer) =
        .ok emptied ∧
      emptied.Fills base location content ∧ emptied.pending = "" := by
  by_cases hr : buffer.room < text.utf8ByteSize
  · rw [if_pos hr]
    exact exists_flush h
  · -- A text that fits and still goes past the buffer is as large as it, and so it is empty then.
    have hp : buffer.pending.utf8ByteSize = 0 := by
      rw [room, bufferBytes] at *
      omega
    rw [if_neg hr]
    exact ⟨buffer, rfl, h, String.utf8ByteSize_eq_zero_iff.mp hp⟩

theorem exists_write (h : buffer.Fills base location content) (text : String) :
    ∃ written, buffer.write text = .ok written ∧
      written.Fills base location (content.append text) := by
  rw [write]
  by_cases hfit : text.utf8ByteSize ≤ buffer.room ∧ text.utf8ByteSize < bufferBytes
  · rw [if_pos (by simpa using hfit)]
    exact ⟨_, rfl, h.push text⟩
  · obtain ⟨emptied, he, hf, hp⟩ := exists_makeRoom h text hfit
    rw [if_neg (by simpa using hfit), he]
    by_cases hs : text.utf8ByteSize < bufferBytes
    · simp only [if_pos hs]
      exact ⟨_, rfl, hf.push text⟩
    · simp only [if_neg hs, hf.append_system hp text]
      refine ⟨_, rfl, hf.file, content.append text, rfl, ?_⟩
      rw [hp, Content.append_empty]

theorem writeAll_fills (h : buffer.Fills base location content) (rendering : Rendering) :
    (buffer.writeAll rendering).2 = ending rendering ∧
      (buffer.writeAll rendering).1.Fills base location (content.append rendering.output) := by
  induction rendering generalizing buffer content with
  | done | fail _ =>
    refine ⟨rfl, ?_⟩
    rw [Rendering.output, Rendering.pieces, String.join_nil, Content.append_empty]
    exact h
  | piece text rest ih =>
    obtain ⟨written, hw, hf⟩ := exists_write h text
    rw [writeAll, hw, output_piece, Content.append_append, ending_piece]
    exact ih () hf

theorem close_eq (h : buffer.Fills base location content) :
    buffer.close = base.put location (.file content) := by
  obtain ⟨flushed, hf, hs, hp⟩ := exists_flush h
  rw [close, hf]
  exact hs.system_eq hp

theorem deliver_eq (h : buffer.Fills base location content) (rendering : Rendering) :
    buffer.deliver rendering =
      (base.put location (.file (content.append rendering.output)), ending rendering) := by
  obtain ⟨he, hf⟩ := writeAll_fills h rendering
  rw [deliver]
  split
  · rename_i left error hw
    rw [hw] at he hf
    rw [close_eq hf, ← he]
  · rename_i left hw
    rw [hw] at he hf
    obtain ⟨flushed, hflush, hs, hp⟩ := exists_flush hf
    rw [hflush, ← he, ← hs.system_eq hp]

end Buffer

end PointerHelpers.Files
