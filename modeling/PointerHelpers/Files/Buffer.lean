import PointerHelpers.Files.FileSystem
import PointerHelpers.Output.Delivery

namespace PointerHelpers.Files

open Output Template

def bufferBytes : Nat := 8192

structure Buffer where
  system : FileSystem
  file : Location
  pending : String

namespace Buffer

def room (buffer : Buffer) : Nat := bufferBytes - buffer.pending.utf8ByteSize

def flush (buffer : Buffer) : Except SystemError Buffer :=
  match buffer.system.append buffer.file buffer.pending with
  | .error error => .error error
  | .ok system => .ok { buffer with system, pending := "" }

/-- Write a text through the buffer. A text that does not fit drives out what is pending, and one
that would fill the whole buffer goes past it. -/
def write (buffer : Buffer) (text : String) : Except SystemError Buffer :=
  if text.utf8ByteSize ≤ buffer.room && text.utf8ByteSize < bufferBytes then
    .ok { buffer with pending := buffer.pending ++ text }
  else
    match (if buffer.room < text.utf8ByteSize then buffer.flush else .ok buffer) with
    | .error error => .error error
    | .ok buffer =>
      if text.utf8ByteSize < bufferBytes then
        .ok { buffer with pending := buffer.pending ++ text }
      else
        match buffer.system.append buffer.file text with
        | .error error => .error error
        | .ok system => .ok { buffer with system }

def writeAll (buffer : Buffer) : Rendering → Buffer × Except (DeliveryError SystemError) Unit
  | .done => (buffer, .ok ())
  | .fail fault => (buffer, .error (.rendering fault))
  | .piece text rest =>
    match buffer.write text with
    | .error error => (buffer, .error (.output error))
    | .ok buffer => buffer.writeAll (rest ())

/-- The file system when the buffer is given up: what is pending is written if that is possible. -/
def close (buffer : Buffer) : FileSystem :=
  match buffer.flush with
  | .error _ => buffer.system
  | .ok buffer => buffer.system

def deliver (buffer : Buffer) (rendering : Rendering) :
    FileSystem × Except (DeliveryError SystemError) Unit :=
  match buffer.writeAll rendering with
  | (buffer, .error error) => (buffer.close, .error error)
  | (buffer, .ok ()) =>
    match buffer.flush with
    | .error error => (buffer.system, .error (.output error))
    | .ok buffer => (buffer.system, .ok ())

end Buffer

end PointerHelpers.Files
