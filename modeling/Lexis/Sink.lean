import Lexis.Failure

/-!
# Output devices

A sink keeps the bytes written to it. It may have room for a limited number of
bytes only: a text that does not fit is stored as far as it does and the write
fails. Its last step, flushing, may fail too, and that changes no byte.
-/

namespace Lexis

set_option autoImplicit false

/-- An output device. -/
structure Sink where
  /-- What was written, the latest first. -/
  pieces : List (List UInt8)
  /-- How many bytes still fit, if there is a bound. -/
  room : Option Nat
  flushFails : Bool
  deriving DecidableEq

namespace Sink

/-- An empty sink. -/
def empty (room : Option Nat) (flushFails : Bool) : Sink :=
  ⟨[], room, flushFails⟩

/-- A sink that takes everything. -/
def unbounded : Sink :=
  empty none false

/-- The bytes written so far. -/
def contents (sink : Sink) : List UInt8 :=
  sink.pieces.reverse.flatten

/-- The failure of a sink that is full. -/
def full : Failure :=
  ⟨.other, "disk full"⟩

/-- The failure of a sink that cannot be flushed. -/
def flushFailure : Failure :=
  ⟨.other, "flush failed"⟩

/-- Writes a text, or as much of it as fits. -/
def write (sink : Sink) (text : String) : Sink × Option Failure :=
  let bytes := Utf8.encode text.toList
  match sink.room with
  | none => ({ sink with pieces := bytes :: sink.pieces }, none)
  | some room =>
      if bytes.length ≤ room then
        ({ sink with pieces := bytes :: sink.pieces, room := some (room - bytes.length) }, none)
      else
        ({ sink with pieces := bytes.take room :: sink.pieces, room := some 0 }, some full)

/-- Writes texts one after the other, up to the first that fails. -/
def writeAll (sink : Sink) : List String → Sink × Option Failure
  | [] => (sink, none)
  | text :: later =>
      match sink.write text with
      | (sink, none) => sink.writeAll later
      | (sink, some failure) => (sink, some failure)

/-- The failure of flushing, if it fails. -/
def flush (sink : Sink) : Option Failure :=
  if sink.flushFails then some flushFailure else none

end Sink

end Lexis
