import Lexis.ByteStream
import Lexis.Source.Basic

/-!
# Reading lines as characters

A line reader takes a byte stream one line at a time and hands the line out
character by character. The line feed belongs to the line that it ends, so the
first character of a new line is also the first on the new line number.

A line that cannot be read to its end keeps its readable beginning. The fault
waits until that beginning is used up, and it names the place of the first
character that is missing. After it, or after the end, the reader asks the
stream for nothing more.
-/

namespace Lexis

set_option autoImplicit false

/-- A byte stream read by lines. -/
structure LineReader where
  /-- The bytes after the current line. -/
  stream : ByteStream
  closed : Bool
  /-- Nothing more is to be asked of the stream. -/
  exhausted : Bool
  /-- The characters of the current line still to be handed out. -/
  unread : List Char
  /-- How many characters of the current line have been handed out. -/
  handedOut : Nat
  /-- The number of the current line. -/
  line : UInt32
  /-- The fault that follows the current line. -/
  pending : Option Fault
  /-- Whether a line was taken behind the one with the highest number. -/
  overflowed : Bool
  deriving DecidableEq

namespace LineReader

/-- A reader at the start of a stream. -/
def ofStream (stream : ByteStream) : LineReader :=
  ⟨stream, false, false, [], 0, 0, none, false⟩

/-- A reader at the start of a text. -/
def ofText (text : String) : LineReader :=
  ofStream [.bytes (Utf8.encode text.toList)]

/-- The position of the character handed out last. -/
def position (reader : LineReader) : Position :=
  ⟨reader.line, .ofNatClamp reader.handedOut⟩

/-- Takes the next line from the stream. A line the stream fails in, or that is
no UTF-8, is the last one, and of the two causes the stream's own comes first.
Lines are counted without a check, and whether the check would have failed is
kept in `overflowed`. -/
def fill (reader : LineReader) : LineReader :=
  if reader.closed || reader.exhausted then
    reader
  else
    let taken := reader.stream.takeLine
    if taken.bytes.isEmpty && taken.failure.isNone then
      { reader with stream := taken.rest, exhausted := true }
    else
      let decoded := Utf8.decode taken.bytes
      let cause := taken.failure <|> decoded.malformation.map Failure.ofMalformation
      let line := reader.line + 1
      let missing : Position := ⟨line, .ofNatClamp (decoded.text.length + 1)⟩
      { reader with
        stream := taken.rest
        exhausted := cause.isSome
        unread := decoded.text
        handedOut := 0
        line
        pending := cause.map (Fault.reading missing)
        overflowed := reader.overflowed || (increment? reader.line).isNone }

/-- Hands out what is left of the current line and the fault after it. -/
def handOut? (reader : LineReader) : Option (Reading × LineReader) :=
  match reader.unread, reader.pending with
  | char :: later, _ =>
      some (.char char, { reader with unread := later, handedOut := reader.handedOut + 1 })
  | [], some fault => some (.failed fault, { reader with pending := none })
  | [], none => none

/-- Reads a character, from the next line if the current one is used up. -/
def read (reader : LineReader) : Reading × LineReader :=
  match reader.handOut? with
  | some answer => answer
  | none =>
      let filled := reader.fill
      match filled.handOut? with
      | some answer => answer
      | none => (.ended, filled)

/-- Lets go of the stream and of what is left of the current line. -/
def close (reader : LineReader) : LineReader :=
  { reader with stream := [], closed := true, unread := [], handedOut := 0, pending := none }

/-- A bound on the number of characters to come. -/
def remaining (reader : LineReader) : Nat :=
  reader.unread.length + reader.stream.byteCount

theorem remaining_lt_of_handOut? {reader next : LineReader} {char : Char}
    (answer : reader.handOut? = some (.char char, next)) :
    next.remaining < reader.remaining := by
  unfold handOut? at answer
  split at answer
  · rename_i later _ unread
    obtain ⟨_, rfl⟩ := Prod.mk.inj (Option.some.inj answer)
    simp [remaining, unread]
  · simp at answer
  · simp at answer

/-- A new line is no longer than the bytes it was taken from. -/
theorem remaining_fill {reader : LineReader} (usedUp : reader.unread = []) :
    reader.fill.remaining ≤ reader.remaining := by
  unfold fill
  split
  · exact Nat.le_refl _
  · have split_bytes := reader.stream.length_takeLine
    have shorter := Utf8.length_text_decodeFrom 0 [] reader.stream.takeLine.bytes
    dsimp only
    split
    · simp only [remaining, usedUp]
      omega
    · simp only [remaining, usedUp, Utf8.decode, List.length_nil] at shorter ⊢
      omega

theorem unread_of_handOut? {reader : LineReader} (nothing : reader.handOut? = none) :
    reader.unread = [] := by
  unfold handOut? at nothing
  split at nothing <;> simp_all

theorem remaining_lt_of_read {reader next : LineReader} {char : Char}
    (answer : reader.read = (.char char, next)) : next.remaining < reader.remaining := by
  unfold read at answer
  split at answer
  · rename_i given
    exact remaining_lt_of_handOut? (answer ▸ given)
  · rename_i nothing
    have bound := remaining_fill (unread_of_handOut? nothing)
    dsimp only at answer
    split at answer
    · rename_i given
      exact Nat.lt_of_lt_of_le (remaining_lt_of_handOut? (answer ▸ given)) bound
    · cases answer

theorem overflowed_of_handOut? {reader next : LineReader} {reading : Reading}
    (answer : reader.handOut? = some (reading, next)) : next.overflowed = reader.overflowed := by
  unfold handOut? at answer
  split at answer
  · obtain ⟨_, rfl⟩ := Prod.mk.inj (Option.some.inj answer)
    rfl
  · obtain ⟨_, rfl⟩ := Prod.mk.inj (Option.some.inj answer)
    rfl
  · cases answer

theorem overflowed_fill {reader : LineReader} (before : reader.overflowed) :
    reader.fill.overflowed := by
  unfold fill
  split
  · exact before
  · dsimp only
    split
    · exact before
    · simp [before]

/-- What has overflowed stays so. -/
theorem overflowed_read {reader : LineReader} (before : reader.overflowed) :
    reader.read.2.overflowed := by
  unfold read
  split
  · rename_i given
    exact (overflowed_of_handOut? given).trans before
  · dsimp only
    split
    · rename_i given
      exact (overflowed_of_handOut? given).trans (overflowed_fill before)
    · exact overflowed_fill before

instance : Source LineReader where
  read := read
  position := position
  close := close
  remaining := remaining
  remaining_lt := remaining_lt_of_read
  overflowed := overflowed
  overflowed_read := overflowed_read
  overflowed_close _ := rfl

end LineReader

end Lexis
