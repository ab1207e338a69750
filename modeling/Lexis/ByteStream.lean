import Lexis.Failure

/-!
# Byte streams

A byte stream hands out bytes in pieces. Between two pieces it may fail, or be
interrupted, which calls for another try. Reading a line gathers the bytes
through the next line feed, across the pieces and the interruptions
(`ByteStream.takeLine`), so how the bytes are cut into pieces does not show in
the line. A failure ends the line early and leaves the bytes before it.
-/

namespace Lexis

set_option autoImplicit false

/-- What one request to a stream answers. -/
inductive Chunk
  | bytes (content : List UInt8)
  | failure (cause : Failure)
  | interrupted
  deriving DecidableEq

/-- What a stream will still hand out. -/
abbrev ByteStream := List Chunk

/-- The byte that ends a line. -/
def lineFeed : UInt8 := 0x0A

/-- How many bytes a stream still has. -/
def ByteStream.byteCount : ByteStream → Nat
  | [] => 0
  | .bytes content :: later => content.length + byteCount later
  | .failure _ :: later => byteCount later
  | .interrupted :: later => byteCount later

/-- A line taken from a stream: its bytes, the line feed included, the failure
that cut it short, and the stream after it. -/
structure TakenLine where
  bytes : List UInt8
  failure : Option Failure
  rest : ByteStream

/-- Takes the bytes through the next line feed, or all there are. An empty piece is
read through like any other and is no end of the stream: the stream ends where no
chunk is left. -/
def ByteStream.takeLine : ByteStream → TakenLine
  | [] => ⟨[], none, []⟩
  | .interrupted :: later => takeLine later
  | .failure cause :: later => ⟨[], some cause, later⟩
  | .bytes content :: later =>
      let line := content.takeWhile (· != lineFeed)
      match content.dropWhile (· != lineFeed) with
      | feed :: more => ⟨line ++ [feed], none, .bytes more :: later⟩
      | [] =>
          let taken := takeLine later
          { taken with bytes := line ++ taken.bytes }

/-- Taking a line splits the bytes of a stream and loses none. -/
theorem ByteStream.length_takeLine (stream : ByteStream) :
    stream.takeLine.bytes.length + byteCount stream.takeLine.rest = byteCount stream := by
  induction stream with
  | nil => rfl
  | cons chunk later ih =>
    cases chunk with
    | interrupted => simpa [takeLine, byteCount] using ih
    | failure cause => simp [takeLine, byteCount]
    | bytes content =>
      have whole := List.takeWhile_append_dropWhile (p := (· != lineFeed)) (l := content)
      have lengths := congrArg List.length whole
      rw [List.length_append] at lengths
      simp only [takeLine, byteCount]
      split <;> rename_i rest <;> rw [rest] at lengths
      · simp only [List.length_append, List.length_cons, List.length_nil, byteCount] at lengths ⊢
        omega
      · simp only [List.length_append, List.length_nil] at lengths ⊢
        omega

end Lexis
