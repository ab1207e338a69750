/-!
# Decoding UTF-8

The front of a byte sequence is a character, an ill-formed part, or the start of
a character that the bytes do not finish (`front`). An ill-formed part is
maximal: it runs up to the first byte that no well-formed sequence could hold
there.

Two decoders share that view. The strict one keeps the longest well-formed
beginning and says what ended it (`decode`). The lenient one puts one
replacement character in the place of each ill-formed part and of an unfinished
end (`decodeLossy`).
-/

namespace Lexis.Utf8

set_option autoImplicit false

/-- What the first bytes of a sequence are. -/
inductive Front
  /-- A character, and the bytes after it. -/
  | character (char : Char) (rest : List UInt8)
  /-- As many bytes as no character begins with, and the bytes after them. -/
  | illFormed (length : Nat) (rest : List UInt8)
  /-- A character's first bytes, at the end of the sequence. -/
  | cutOff

/-- What the first byte of a character announces: how many bytes follow, the
bounds of the next one, and the bits it contributes itself. -/
structure Lead where
  following : Nat
  low : UInt8
  high : UInt8
  bits : Nat

/-- Reads a first byte. A byte that continues a character, that would start an
overlong form, or that would lead past the last code point announces nothing. -/
def Lead.ofByte? (byte : UInt8) : Option Lead :=
  if byte < 0x80 then some ⟨0, 0x80, 0xBF, byte.toNat⟩
  else if byte < 0xC2 then none
  else if byte < 0xE0 then some ⟨1, 0x80, 0xBF, byte.toNat - 0xC0⟩
  else if byte = 0xE0 then some ⟨2, 0xA0, 0xBF, 0⟩
  else if byte = 0xED then some ⟨2, 0x80, 0x9F, 0xD⟩
  else if byte < 0xF0 then some ⟨2, 0x80, 0xBF, byte.toNat - 0xE0⟩
  else if byte = 0xF0 then some ⟨3, 0x90, 0xBF, 0⟩
  else if byte < 0xF4 then some ⟨3, 0x80, 0xBF, byte.toNat - 0xF0⟩
  else if byte = 0xF4 then some ⟨3, 0x80, 0x8F, 4⟩
  else none

/-- Reads the bytes that are still due, after `seen` bytes of the character whose
bits so far are `bits`; the bounds are those of the next byte. -/
def Front.following : (due : Nat) → (low high : UInt8) → (seen bits : Nat) → List UInt8 → Front
  | 0, _, _, _, bits, rest => .character (Char.ofNat bits) rest
  | _ + 1, _, _, _, _, [] => .cutOff
  | due + 1, low, high, seen, bits, byte :: rest =>
      if low ≤ byte ∧ byte ≤ high then
        following due 0x80 0xBF (seen + 1) (bits * 64 + (byte.toNat - 0x80)) rest
      else
        .illFormed seen (byte :: rest)

/-- The front of a sequence that starts with a byte. -/
def front (byte : UInt8) (rest : List UInt8) : Front :=
  match Lead.ofByte? byte with
  | none => .illFormed 1 rest
  | some lead => .following lead.following lead.low lead.high 1 lead.bits rest

/-- The bytes after the front. -/
def Front.rest : Front → List UInt8
  | .character _ rest => rest
  | .illFormed _ rest => rest
  | .cutOff => []

theorem Front.length_rest_following (due : Nat) (low high : UInt8) (seen bits : Nat)
    (bytes : List UInt8) :
    (Front.following due low high seen bits bytes).rest.length ≤ bytes.length := by
  induction due generalizing low high seen bits bytes with
  | zero => simp [Front.following, Front.rest]
  | succ due ih =>
    cases bytes with
    | nil => simp [Front.following, Front.rest]
    | cons byte rest =>
      rw [Front.following]
      split
      · exact Nat.le_succ_of_le (ih _ _ _ _ rest)
      · simp [Front.rest]

/-- A front takes at least its first byte. -/
theorem length_rest_front (byte : UInt8) (bytes : List UInt8) :
    (front byte bytes).rest.length ≤ bytes.length := by
  unfold front
  split
  · simp [Front.rest]
  · exact Front.length_rest_following _ _ _ _ _ _

theorem length_lt_of_front {byte : UInt8} {bytes rest : List UInt8}
    (after : (front byte bytes).rest = rest) : rest.length < (byte :: bytes).length :=
  Nat.lt_succ_of_le (after ▸ length_rest_front byte bytes)

/-! ## Strict decoding -/

/-- What ends the well-formed beginning of a byte sequence, with the index of
the first byte past it. -/
inductive Malformation
  /-- So many bytes from there begin no character. -/
  | illFormed (length index : Nat)
  /-- The bytes end inside the character that starts there. -/
  | cutOff (index : Nat)
  deriving DecidableEq

/-- The wording of a malformation. -/
def Malformation.message : Malformation → String
  | .illFormed length index => s!"invalid utf-8 sequence of {length} bytes from index {index}"
  | .cutOff index => s!"incomplete utf-8 byte sequence from index {index}"

/-- A well-formed beginning and what ended it, if anything did. -/
structure Decoded where
  text : List Char
  malformation : Option Malformation

/-- Decodes on from an index; `read` holds the characters before it, the latest
first. -/
def decodeFrom (index : Nat) (read : List Char) : List UInt8 → Decoded
  | [] => ⟨read.reverse, none⟩
  | byte :: bytes =>
      match _found : front byte bytes with
      | .character char rest => decodeFrom (index + char.utf8Size) (char :: read) rest
      | .illFormed length _ => ⟨read.reverse, some (.illFormed length index)⟩
      | .cutOff => ⟨read.reverse, some (.cutOff index)⟩
termination_by bytes => bytes.length
decreasing_by exact length_lt_of_front (by rw [_found, Front.rest])

/-- The longest well-formed beginning of a byte sequence, and what ended it. -/
def decode (bytes : List UInt8) : Decoded :=
  decodeFrom 0 [] bytes

/-- The decoder yields at most one character for each byte. -/
theorem length_text_decodeFrom (index : Nat) (read : List Char) (bytes : List UInt8) :
    (decodeFrom index read bytes).text.length ≤ read.length + bytes.length := by
  fun_induction decodeFrom index read bytes with
  | case1 => simp
  | case2 index read byte bytes char rest found ih =>
    have fewer := length_lt_of_front (congrArg Front.rest found)
    simp only [Front.rest, List.length_cons] at fewer ih ⊢
    omega
  | case3 => simp
  | case4 => simp

/-! ## Lenient decoding -/

/-- The character that stands for bytes that are none. -/
def replacement : Char := '\uFFFD'

/-- Decodes leniently; `read` holds the characters before, the latest first. -/
def decodeLossyFrom (read : List Char) : List UInt8 → List Char
  | [] => read.reverse
  | byte :: bytes =>
      match _found : front byte bytes with
      | .character char rest => decodeLossyFrom (char :: read) rest
      | .illFormed _ rest => decodeLossyFrom (replacement :: read) rest
      | .cutOff => (replacement :: read).reverse
termination_by bytes => bytes.length
decreasing_by all_goals exact length_lt_of_front (by rw [_found, Front.rest])

/-- The characters of a byte sequence, with one replacement character for each
ill-formed part and for an unfinished end. -/
def decodeLossy (bytes : List UInt8) : List Char :=
  decodeLossyFrom [] bytes

/-! ## Encoding -/

/-- The bytes of a text. -/
def encode (text : List Char) : List UInt8 :=
  text.flatMap String.utf8EncodeChar

end Lexis.Utf8
