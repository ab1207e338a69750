import Lexis.ByteStream
import Lexis.Text.Utf8

/-!
# The strict decoder reads the longest well-formed beginning

The front of a byte sequence is a character exactly when the sequence starts
with the encoding of that character (`front_eq_character_iff`). So the strict
decoder undoes the encoder, whatever follows the encoding (`decode_encode_append`),
and the text it returns is the longest one whose encoding begins the bytes
(`longestBeginning_decode`, `LongestBeginning.eq_decode`).

A line feed byte is the encoding of a line feed and part of no other encoding.
Decoding therefore commutes with cutting the bytes after a line feed: a clean
first line is read and the decoder goes on with the rest (`decode_append_of_clean`),
and a broken first line is where the readable beginning ends
(`decode_append_of_broken`). What is left past that beginning is the remainder of
the bytes (`encode_append_remainder`).

The lenient decoder reads the same beginning, and where the strict one stops it
puts a replacement character (`decodeLossy_eq`).
-/

namespace Lexis.Utf8

set_option autoImplicit false

/-! ## The front of an encoded text -/

theorem Front.following_zero_eq_character_iff {low high : UInt8} {seen bits : Nat}
    {bytes rest : List UInt8} {char : Char} :
    Front.following 0 low high seen bits bytes = .character char rest ↔
      Char.ofNat bits = char ∧ bytes = rest := by
  simp [Front.following]

theorem Front.following_succ_eq_character_iff {due : Nat} {low high : UInt8} {seen bits : Nat}
    {bytes rest : List UInt8} {char : Char} :
    Front.following (due + 1) low high seen bits bytes = .character char rest ↔
      ∃ byte later, bytes = byte :: later ∧ (low.toNat ≤ byte.toNat ∧ byte.toNat ≤ high.toNat) ∧
        Front.following due 0x80 0xBF (seen + 1) (bits * 64 + (byte.toNat - 0x80)) later =
          .character char rest := by
  cases bytes with
  | nil => simp [Front.following]
  | cons byte later =>
    rw [Front.following]
    constructor
    · intro found
      split at found
      · rename_i within
        exact ⟨byte, later, rfl, within, found⟩
      · cases found
    · rintro ⟨_, _, same, within, found⟩
      cases same
      exact (if_pos within).trans found

theorem val_ofNat_of_isValidChar {code : Nat} (valid : code.isValidChar) :
    (Char.ofNat code).val.toNat = code := by
  rw [Char.ofNat, dif_pos valid]
  exact UInt32.toNat_ofNatLT

/-- The bytes of a front that is a character are the encoding of the
character. -/
theorem encode_of_front {byte : UInt8} {bytes rest : List UInt8} {char : Char}
    (found : front byte bytes = .character char rest) :
    byte :: bytes = String.utf8EncodeChar char ++ rest := by
  unfold front Lead.ofByte? at found
  simp only [UInt8.lt_iff_toNat_lt, ← UInt8.toNat_inj, UInt8.reduceToNat] at found
  have small := byte.toNat_lt
  split at found
  · cases found
  · rename_i lead announced
    repeat' split at announced
    all_goals cases announced
    all_goals simp only [Front.following_succ_eq_character_iff,
      Front.following_zero_eq_character_iff, UInt8.reduceToNat] at found
    -- The rows of the table of first bytes, one following byte more after each group.
    · obtain ⟨rfl, rfl⟩ := found
      rw [String.utf8EncodeChar, val_ofNat_of_isValidChar (by simp only [Nat.isValidChar]; omega),
        if_pos (by omega)]
      simp
    · obtain ⟨second, _, rfl, _, rfl, rfl⟩ := found
      rw [String.utf8EncodeChar, val_ofNat_of_isValidChar (by simp only [Nat.isValidChar]; omega),
        if_neg (by omega), if_pos (by omega)]
      simp only [List.cons_append, List.nil_append, List.cons.injEq, ← UInt8.toNat_inj,
        UInt8.toNat_ofNat', and_true]
      omega
    iterate 3
      · obtain ⟨second, _, rfl, _, third, _, rfl, _, rfl, rfl⟩ := found
        rw [String.utf8EncodeChar,
          val_ofNat_of_isValidChar (by simp only [Nat.isValidChar]; omega),
          if_neg (by omega), if_neg (by omega), if_pos (by omega)]
        simp only [List.cons_append, List.nil_append, List.cons.injEq, ← UInt8.toNat_inj,
          UInt8.toNat_ofNat', and_true]
        omega
    iterate 3
      · obtain ⟨second, _, rfl, _, third, _, rfl, _, fourth, _, rfl, _, rfl, rfl⟩ := found
        rw [String.utf8EncodeChar,
          val_ofNat_of_isValidChar (by simp only [Nat.isValidChar]; omega),
          if_neg (by omega), if_neg (by omega), if_neg (by omega)]
        simp only [List.cons_append, List.nil_append, List.cons.injEq, ← UInt8.toNat_inj,
          UInt8.toNat_ofNat', and_true]
        omega

section Widths

variable {code : Nat} (rest : List UInt8)

theorem front_of_one_byte (ascii : code ≤ 0x7F) :
    front (.ofNat code) rest = .character (.ofNat code) rest := by
  unfold front Lead.ofByte?
  simp only [UInt8.lt_iff_toNat_lt, UInt8.reduceToNat, UInt8.toNat_ofNat']
  rw [if_pos (by omega)]
  exact Front.following_zero_eq_character_iff.mpr
    ⟨congrArg Char.ofNat (Nat.mod_eq_of_lt (by omega)), rfl⟩

theorem front_of_two_bytes (low : 0x7F < code) (high : code ≤ 0x7FF) :
    front (.ofNat (code / 64 % 0x20 + 0xC0)) (.ofNat (code % 0x40 + 0x80) :: rest) =
      .character (.ofNat code) rest := by
  unfold front Lead.ofByte?
  simp only [UInt8.lt_iff_toNat_lt, UInt8.reduceToNat, UInt8.toNat_ofNat']
  rw [if_neg (by omega), if_neg (by omega), if_pos (by omega)]
  simp only [Front.following_succ_eq_character_iff, Front.following_zero_eq_character_iff,
    UInt8.reduceToNat]
  refine ⟨_, _, rfl, ?_, congrArg Char.ofNat ?_, rfl⟩ <;> rw [UInt8.toNat_ofNat'] <;> omega

/-- The first byte 0xE0 rules out overlong forms, and 0xED the surrogates. -/
theorem announced_of_three_bytes (low : 0x7FF < code) (high : code ≤ 0xFFFF)
    (valid : code.isValidChar) :
    ∃ least most, Lead.ofByte? (.ofNat (code / 4096 % 0x10 + 0xE0)) =
        some ⟨2, least, most, code / 4096⟩ ∧
      least.toNat ≤ code / 64 % 0x40 + 0x80 ∧ code / 64 % 0x40 + 0x80 ≤ most.toNat := by
  simp only [Nat.isValidChar] at valid
  have byte : (UInt8.ofNat (code / 4096 % 0x10 + 0xE0)).toNat = code / 4096 + 0xE0 := by
    rw [UInt8.toNat_ofNat']
    omega
  unfold Lead.ofByte?
  simp only [UInt8.lt_iff_toNat_lt, ← UInt8.toNat_inj, UInt8.reduceToNat, byte]
  rw [if_neg (by omega), if_neg (by omega), if_neg (by omega)]
  rcases (by omega : code < 0x1000 ∨ (0xD000 ≤ code ∧ code < 0xE000) ∨
      (0x1000 ≤ code ∧ (code < 0xD000 ∨ 0xE000 ≤ code))) with first | second | third
  · rw [if_pos (by omega)]
    refine ⟨0xA0, 0xBF, congrArg (some ∘ Lead.mk 2 0xA0 0xBF) (by omega), ?_⟩
    simp only [UInt8.reduceToNat]
    omega
  · rw [if_neg (by omega), if_pos (by omega)]
    refine ⟨0x80, 0x9F, congrArg (some ∘ Lead.mk 2 0x80 0x9F) (by omega), ?_⟩
    simp only [UInt8.reduceToNat]
    omega
  · rw [if_neg (by omega), if_neg (by omega), if_pos (by omega)]
    refine ⟨0x80, 0xBF, congrArg (some ∘ Lead.mk 2 0x80 0xBF) (by omega), ?_⟩
    simp only [UInt8.reduceToNat]
    omega

theorem front_of_three_bytes (low : 0x7FF < code) (high : code ≤ 0xFFFF)
    (valid : code.isValidChar) :
    front (.ofNat (code / 4096 % 0x10 + 0xE0))
        (.ofNat (code / 64 % 0x40 + 0x80) :: .ofNat (code % 0x40 + 0x80) :: rest) =
      .character (.ofNat code) rest := by
  obtain ⟨least, most, announced, bounds⟩ := announced_of_three_bytes low high valid
  rw [front, announced]
  simp only [Front.following_succ_eq_character_iff, Front.following_zero_eq_character_iff,
    UInt8.reduceToNat]
  refine ⟨_, _, rfl, ?_, _, _, rfl, ?_, congrArg Char.ofNat ?_, rfl⟩ <;>
    simp only [UInt8.toNat_ofNat'] <;> omega

/-- The first byte 0xF0 rules out overlong forms, and 0xF4 what lies past the
last code point. -/
theorem announced_of_four_bytes (low : 0xFFFF < code) (valid : code.isValidChar) :
    ∃ least most, Lead.ofByte? (.ofNat (code / 262144 % 0x08 + 0xF0)) =
        some ⟨3, least, most, code / 262144⟩ ∧
      least.toNat ≤ code / 4096 % 0x40 + 0x80 ∧ code / 4096 % 0x40 + 0x80 ≤ most.toNat := by
  simp only [Nat.isValidChar] at valid
  have byte : (UInt8.ofNat (code / 262144 % 0x08 + 0xF0)).toNat = code / 262144 + 0xF0 := by
    rw [UInt8.toNat_ofNat']
    omega
  unfold Lead.ofByte?
  simp only [UInt8.lt_iff_toNat_lt, ← UInt8.toNat_inj, UInt8.reduceToNat, byte]
  rw [if_neg (by omega), if_neg (by omega), if_neg (by omega), if_neg (by omega),
    if_neg (by omega), if_neg (by omega)]
  rcases (by omega : code < 0x40000 ∨ (0x40000 ≤ code ∧ code < 0x100000) ∨ 0x100000 ≤ code) with
    first | second | third
  · rw [if_pos (by omega)]
    refine ⟨0x90, 0xBF, congrArg (some ∘ Lead.mk 3 0x90 0xBF) (by omega), ?_⟩
    simp only [UInt8.reduceToNat]
    omega
  · rw [if_neg (by omega), if_pos (by omega)]
    refine ⟨0x80, 0xBF, congrArg (some ∘ Lead.mk 3 0x80 0xBF) (by omega), ?_⟩
    simp only [UInt8.reduceToNat]
    omega
  · rw [if_neg (by omega), if_neg (by omega), if_pos (by omega)]
    refine ⟨0x80, 0x8F, congrArg (some ∘ Lead.mk 3 0x80 0x8F) (by omega), ?_⟩
    simp only [UInt8.reduceToNat]
    omega

theorem front_of_four_bytes (low : 0xFFFF < code) (valid : code.isValidChar) :
    front (.ofNat (code / 262144 % 0x08 + 0xF0))
        (.ofNat (code / 4096 % 0x40 + 0x80) :: .ofNat (code / 64 % 0x40 + 0x80) ::
          .ofNat (code % 0x40 + 0x80) :: rest) =
      .character (.ofNat code) rest := by
  obtain ⟨least, most, announced, bounds⟩ := announced_of_four_bytes low valid
  rw [front, announced]
  simp only [Front.following_succ_eq_character_iff, Front.following_zero_eq_character_iff,
    UInt8.reduceToNat]
  refine ⟨_, _, rfl, ?_, _, _, rfl, ?_, _, _, rfl, ?_, congrArg Char.ofNat ?_, rfl⟩ <;>
    simp only [UInt8.toNat_ofNat'] <;> omega

end Widths

/-- The encoding of a character, whatever follows it, has the character at its
front. -/
theorem front_encode (char : Char) (rest : List UInt8) :
    ∃ byte bytes, String.utf8EncodeChar char ++ rest = byte :: bytes ∧
      front byte bytes = .character char rest := by
  have valid : char.val.toNat.isValidChar := char.valid
  have same : Char.ofNat char.val.toNat = char := Char.ofNat_toNat char
  unfold String.utf8EncodeChar
  generalize char.val.toNat = code at valid same
  subst same
  dsimp only
  split
  · rename_i ascii
    exact ⟨_, _, rfl, front_of_one_byte rest ascii⟩
  split
  · rename_i low high
    exact ⟨_, _, rfl, front_of_two_bytes rest (Nat.not_le.mp low) high⟩
  split
  · rename_i _ low high
    exact ⟨_, _, rfl, front_of_three_bytes rest (Nat.not_le.mp low) high valid⟩
  · rename_i low
    exact ⟨_, _, rfl, front_of_four_bytes rest (Nat.not_le.mp low) valid⟩

/-- **A front is a character exactly when the bytes start with its encoding.** -/
theorem front_eq_character_iff {byte : UInt8} {bytes rest : List UInt8} {char : Char} :
    front byte bytes = .character char rest ↔
      byte :: bytes = String.utf8EncodeChar char ++ rest := by
  constructor
  · exact encode_of_front
  · intro encoded
    obtain ⟨_, _, same, found⟩ := front_encode char rest
    rw [← encoded] at same
    cases same
    exact found

/-! ## The decoder undoes the encoder -/

/-- Whether the whole of a byte sequence is well formed. -/
def Decoded.clean (decoded : Decoded) : Bool :=
  decoded.malformation.isNone

@[simp]
theorem encode_nil : encode [] = [] :=
  rfl

@[simp]
theorem encode_cons (char : Char) (text : List Char) :
    encode (char :: text) = String.utf8EncodeChar char ++ encode text :=
  rfl

@[simp]
theorem encode_append (first second : List Char) :
    encode (first ++ second) = encode first ++ encode second :=
  List.flatMap_append

@[simp]
theorem decode_nil : decode [] = ⟨[], none⟩ := by
  rw [decode, decodeFrom, List.reverse_nil]

theorem decodeFrom_of_character {byte : UInt8} {bytes rest : List UInt8} {char : Char}
    (found : front byte bytes = .character char rest) (index : Nat) (read : List Char) :
    decodeFrom index read (byte :: bytes) =
      decodeFrom (index + char.utf8Size) (char :: read) rest := by
  rw [decodeFrom]
  split <;> simp_all

theorem decodeFrom_of_not_character {byte : UInt8} {bytes : List UInt8}
    (noChar : ∀ char rest, front byte bytes ≠ .character char rest) (index : Nat)
    (read : List Char) :
    (decodeFrom index read (byte :: bytes)).text = read.reverse ∧
      (decodeFrom index read (byte :: bytes)).clean = false := by
  rw [decodeFrom]
  split
  · rename_i found
    exact absurd found (noChar _ _)
  · exact ⟨rfl, rfl⟩
  · exact ⟨rfl, rfl⟩

theorem length_lt_of_character {byte : UInt8} {bytes rest : List UInt8} {char : Char}
    (found : front byte bytes = .character char rest) : rest.length < (byte :: bytes).length :=
  length_lt_of_front (congrArg Front.rest found)

/-- The index and the characters read before do not change what is decoded. -/
theorem exists_decodeFrom (bytes : List UInt8) :
    ∃ text clean, ∀ index read, (decodeFrom index read bytes).text = read.reverse ++ text ∧
      (decodeFrom index read bytes).clean = clean := by
  cases bytes with
  | nil => exact ⟨[], true, fun index read => by simp [decodeFrom, Decoded.clean]⟩
  | cons byte bytes =>
    by_cases character : ∃ char rest, front byte bytes = .character char rest
    · obtain ⟨char, rest, found⟩ := character
      have fewer := length_lt_of_character found
      obtain ⟨text, clean, decoded⟩ := exists_decodeFrom rest
      refine ⟨char :: text, clean, fun index read => ?_⟩
      rw [decodeFrom_of_character found]
      simpa using decoded (index + char.utf8Size) (char :: read)
    · refine ⟨[], false, fun index read => ?_⟩
      simpa using decodeFrom_of_not_character (by simpa using character) index read
termination_by bytes.length
decreasing_by exact fewer

theorem text_decodeFrom (index : Nat) (read : List Char) (bytes : List UInt8) :
    (decodeFrom index read bytes).text = read.reverse ++ (decode bytes).text ∧
      (decodeFrom index read bytes).clean = (decode bytes).clean := by
  obtain ⟨text, clean, decoded⟩ := exists_decodeFrom bytes
  obtain ⟨sameText, sameClean⟩ := decoded 0 []
  rw [decode, sameText, sameClean]
  exact decoded index read

/-- A character's encoding is decoded to the character, and the bytes after it
by themselves. -/
theorem decode_encodeChar_append (char : Char) (rest : List UInt8) :
    (decode (String.utf8EncodeChar char ++ rest)).text = char :: (decode rest).text ∧
      (decode (String.utf8EncodeChar char ++ rest)).clean = (decode rest).clean := by
  obtain ⟨byte, bytes, same, found⟩ := front_encode char rest
  rw [same, decode, decodeFrom_of_character found]
  exact text_decodeFrom _ [char] rest

/-- **The decoder undoes the encoder, whatever bytes follow.** -/
theorem decode_encode_append (text : List Char) (rest : List UInt8) :
    (decode (encode text ++ rest)).text = text ++ (decode rest).text ∧
      (decode (encode text ++ rest)).clean = (decode rest).clean := by
  induction text with
  | nil => exact ⟨rfl, rfl⟩
  | cons char later ih =>
    rw [encode_cons, List.append_assoc, (decode_encodeChar_append _ _).1,
      (decode_encodeChar_append _ _).2, ih.1, ih.2]
    exact ⟨rfl, rfl⟩

theorem decode_encode (text : List Char) :
    (decode (encode text)).text = text ∧ (decode (encode text)).clean = true := by
  have decoded := decode_encode_append text []
  rw [List.append_nil] at decoded
  simpa [Decoded.clean] using decoded

/-- The bytes are the encoding of the text decoded and a rest, which is empty if
the bytes are well formed. -/
theorem exists_eq_encode_append (bytes : List UInt8) :
    ∃ rest, bytes = encode (decode bytes).text ++ rest ∧
      ((decode bytes).clean = true → rest = []) := by
  cases bytes with
  | nil => exact ⟨[], by simp [decode, decodeFrom]⟩
  | cons byte bytes =>
    by_cases character : ∃ char rest, front byte bytes = .character char rest
    · obtain ⟨char, later, found⟩ := character
      have fewer := length_lt_of_character found
      obtain ⟨rest, whole, empty⟩ := exists_eq_encode_append later
      have encoded := encode_of_front found
      have decoded := decode_encodeChar_append char later
      rw [← encoded] at decoded
      refine ⟨rest, ?_, fun clean => empty (decoded.2 ▸ clean)⟩
      rw [decoded.1, encode_cons, List.append_assoc, ← whole, encoded]
    · have broken := decodeFrom_of_not_character (by simpa using character) 0 []
      refine ⟨byte :: bytes, ?_, fun clean => ?_⟩
      · rw [decode, broken.1]
        rfl
      · rw [decode, broken.2] at clean
        cases clean
termination_by bytes.length
decreasing_by exact fewer

/-! ## The longest well-formed beginning -/

/-- A text is the longest well-formed beginning of a byte sequence: its encoding
begins the bytes, and no longer encoding does. -/
structure LongestBeginning (text : List Char) (bytes : List UInt8) : Prop where
  begins : encode text <+: bytes
  longest : ∀ other, encode other <+: bytes → (encode other).length ≤ (encode text).length

theorem prefix_decode {other : List Char} {bytes : List UInt8}
    (begins : encode other <+: bytes) : other <+: (decode bytes).text := by
  obtain ⟨rest, rfl⟩ := begins
  rw [(decode_encode_append other rest).1]
  exact List.prefix_append _ _

theorem encode_decode_begins (bytes : List UInt8) : encode (decode bytes).text <+: bytes := by
  obtain ⟨rest, whole, _⟩ := exists_eq_encode_append bytes
  exact ⟨rest, whole.symm⟩

/-- **The text decoded is the longest well-formed beginning.** -/
theorem longestBeginning_decode (bytes : List UInt8) :
    LongestBeginning (decode bytes).text bytes where
  begins := encode_decode_begins bytes
  longest other begins := by
    obtain ⟨later, whole⟩ := prefix_decode begins
    rw [← whole, encode_append, List.length_append]
    exact Nat.le_add_right _ _

theorem encode_eq_nil {text : List Char} (empty : encode text = []) : text = [] := by
  cases text with
  | nil => rfl
  | cons char later =>
    exact absurd (List.append_eq_nil_iff.mp empty).1 String.utf8EncodeChar_ne_nil

/-- There is only one longest well-formed beginning. -/
theorem LongestBeginning.eq_decode {text : List Char} {bytes : List UInt8}
    (beginning : LongestBeginning text bytes) : text = (decode bytes).text := by
  obtain ⟨later, whole⟩ := prefix_decode beginning.begins
  have bound := beginning.longest _ (encode_decode_begins bytes)
  rw [← whole, encode_append, List.length_append] at bound
  have empty : encode later = [] := List.eq_nil_of_length_eq_zero (by omega)
  rw [← whole, encode_eq_nil empty, List.append_nil]

/-! ## Cutting after a line feed -/

theorem encode_lineFeed : String.utf8EncodeChar '\n' = [lineFeed] :=
  rfl

/-- A line feed byte is part of no other character. -/
theorem eq_lineFeed_of_mem {char : Char} (member : lineFeed ∈ String.utf8EncodeChar char) :
    char = '\n' := by
  have same : Char.ofNat char.val.toNat = char := Char.ofNat_toNat char
  unfold String.utf8EncodeChar at member
  dsimp only at member
  repeat' split at member
  all_goals
    simp only [List.mem_cons, List.not_mem_nil, or_false, ← UInt8.toNat_inj, UInt8.toNat_ofNat',
      lineFeed, UInt8.reduceToNat] at member
  · rw [← same, show char.val.toNat = 10 by omega]
  · omega
  · omega
  · omega

theorem lineFeed_mem_encode {text : List Char} : lineFeed ∈ encode text ↔ '\n' ∈ text := by
  simp only [encode, List.mem_flatMap]
  constructor
  · rintro ⟨char, member, within⟩
    exact eq_lineFeed_of_mem within ▸ member
  · intro member
    exact ⟨'\n', member, List.mem_singleton_self _⟩

/-- Cutting an encoding at a line feed byte cuts the text at a line feed. -/
theorem eq_append_of_encode_eq {text : List Char} {line rest : List UInt8}
    (encoded : encode text = line ++ lineFeed :: rest) :
    ∃ before after, text = before ++ '\n' :: after ∧ encode before = line ∧
      encode after = rest := by
  induction text generalizing line with
  | nil => simp at encoded
  | cons char later ih =>
    rw [encode_cons, List.append_eq_append_iff] at encoded
    rcases encoded with ⟨more, rfl, encoded⟩ | ⟨more, first, encoded⟩
    · obtain ⟨before, after, rfl, rfl, rfl⟩ := ih encoded
      exact ⟨char :: before, after, rfl, rfl, rfl⟩
    cases more with
    | nil =>
      obtain ⟨before, after, rfl, empty, rfl⟩ := @ih [] encoded.symm
      refine ⟨char :: before, after, rfl, ?_, rfl⟩
      rw [encode_cons, empty, first, List.append_nil, List.append_nil]
    | cons feed more =>
      obtain ⟨rfl, rfl⟩ := List.cons.inj encoded
      have isFeed : char = '\n' := eq_lineFeed_of_mem (by rw [first]; simp)
      subst isFeed
      rw [encode_lineFeed] at first
      cases line with
      | nil =>
        obtain ⟨_, rfl⟩ := List.cons.inj first
        exact ⟨[], later, rfl, rfl, rfl⟩
      | cons byte line => simp at first

/-- A well-formed beginning is decoded, and what follows it by itself. -/
theorem decode_append_of_clean {line : List UInt8} (clean : (decode line).clean = true)
    (rest : List UInt8) :
    (decode (line ++ rest)).text = (decode line).text ++ (decode rest).text ∧
      (decode (line ++ rest)).clean = (decode rest).clean := by
  obtain ⟨_, whole, empty⟩ := exists_eq_encode_append line
  rw [empty clean, List.append_nil] at whole
  have decoded := decode_encode_append (decode line).text rest
  rwa [← whole] at decoded

/-- A line that an encoding goes through is well formed. -/
theorem clean_of_encode_eq {text : List Char} {line rest : List UInt8}
    (encoded : encode text = line ++ lineFeed :: rest) :
    (decode (line ++ [lineFeed])).clean = true := by
  obtain ⟨before, after, _, rfl, _⟩ := eq_append_of_encode_eq encoded
  have clean := (decode_encode (before ++ ['\n'])).2
  rwa [encode_append, encode_cons, encode_lineFeed, encode_nil, List.append_nil] at clean

/-- Past a line that is not well formed nothing is decoded. -/
theorem decode_append_of_broken {line : List UInt8}
    (broken : (decode (line ++ [lineFeed])).clean = false) (rest : List UInt8) :
    (decode (line ++ lineFeed :: rest)).text = (decode (line ++ [lineFeed])).text ∧
      (decode (line ++ lineFeed :: rest)).clean = false := by
  have begins : line ++ [lineFeed] <+: line ++ lineFeed :: rest := ⟨rest, by simp⟩
  have longer : (decode (line ++ [lineFeed])).text <+: (decode (line ++ lineFeed :: rest)).text :=
    prefix_decode ((encode_decode_begins _).trans begins)
  constructor
  · rcases List.prefix_or_prefix_of_prefix (encode_decode_begins (line ++ lineFeed :: rest))
      begins with within | ⟨more, past⟩
    · exact (prefix_decode within).eq_of_length_le longer.length_le
    · rw [List.append_assoc, List.singleton_append] at past
      rw [clean_of_encode_eq past.symm] at broken
      cases broken
  · refine Bool.eq_false_iff.mpr fun clean => ?_
    obtain ⟨_, encoded, empty⟩ := exists_eq_encode_append (line ++ lineFeed :: rest)
    rw [empty clean, List.append_nil] at encoded
    rw [clean_of_encode_eq encoded.symm] at broken
    cases broken

/-! ## The bytes past the well-formed beginning -/

/-- The bytes past the longest well-formed beginning. -/
def remainder (bytes : List UInt8) : List UInt8 :=
  bytes.drop (encode (decode bytes).text).length

theorem encode_append_remainder (bytes : List UInt8) :
    encode (decode bytes).text ++ remainder bytes = bytes := by
  obtain ⟨rest, whole, _⟩ := exists_eq_encode_append bytes
  have dropped : remainder bytes = rest := (congrArg (List.drop _) whole).trans List.drop_left
  rw [dropped, ← whole]

theorem remainder_eq_nil_iff {bytes : List UInt8} :
    remainder bytes = [] ↔ (decode bytes).clean = true := by
  have whole := encode_append_remainder bytes
  constructor
  · intro empty
    rw [empty, List.append_nil] at whole
    rw [← whole]
    exact (decode_encode _).2
  · intro clean
    obtain ⟨rest, split, empty⟩ := exists_eq_encode_append bytes
    rw [empty clean, List.append_nil] at split
    rw [← List.append_cancel_left_eq (encode (decode bytes).text), whole, List.append_nil]
    exact split

/-- Bytes that are well formed to their end have a last character. -/
theorem exists_text_eq_concat {bytes : List UInt8} (nonempty : bytes ≠ [])
    (complete : remainder bytes = []) :
    ∃ before char, (decode bytes).text = before ++ [char] := by
  have characters : (decode bytes).text ≠ [] := by
    intro empty
    have whole := encode_append_remainder bytes
    rw [empty, complete] at whole
    exact nonempty whole.symm
  exact ⟨_, _, (List.dropLast_concat_getLast characters).symm⟩

theorem remainder_append_of_clean {line : List UInt8} (clean : (decode line).clean = true)
    (rest : List UInt8) : remainder (line ++ rest) = remainder rest := by
  have whole := encode_append_remainder (line ++ rest)
  have first := encode_append_remainder line
  rw [remainder_eq_nil_iff.mpr clean, List.append_nil] at first
  rw [(decode_append_of_clean clean rest).1, encode_append, first, List.append_assoc] at whole
  exact List.append_cancel_left
    ((List.append_cancel_left whole).trans (encode_append_remainder rest).symm)

/-- The text of a well-formed line ends with its line feed. -/
theorem exists_decode_line {line : List UInt8}
    (clean : (decode (line ++ [lineFeed])).clean = true) :
    ∃ before, (decode (line ++ [lineFeed])).text = before ++ ['\n'] ∧ encode before = line := by
  have whole := encode_append_remainder (line ++ [lineFeed])
  rw [remainder_eq_nil_iff.mpr clean, List.append_nil] at whole
  obtain ⟨before, after, text, encoded, empty⟩ := eq_append_of_encode_eq whole
  rw [encode_eq_nil empty] at text
  exact ⟨before, text, encoded⟩

/-- The bytes past a broken first line start inside that line and go through
its line feed. -/
theorem remainder_append_of_broken {line : List UInt8}
    (broken : (decode (line ++ [lineFeed])).clean = false) (rest : List UInt8) :
    ∃ left, line = encode (decode (line ++ [lineFeed])).text ++ left ∧
      remainder (line ++ lineFeed :: rest) = left ++ lineFeed :: rest := by
  have nonempty : remainder (line ++ [lineFeed]) ≠ [] := fun empty => by
    rw [remainder_eq_nil_iff.mp empty] at broken
    cases broken
  have whole := encode_append_remainder (line ++ [lineFeed])
  rw [← List.dropLast_concat_getLast nonempty, ← List.append_assoc] at whole
  obtain ⟨same, feed⟩ := List.append_inj' whole rfl
  refine ⟨_, same.symm, ?_⟩
  rw [remainder, (decode_append_of_broken broken rest).1]
  refine (congrArg (fun front => List.drop _ (front ++ lineFeed :: rest)) same.symm).trans ?_
  rw [List.append_assoc, List.drop_left]

/-! ## The lenient decoder -/

theorem decodeLossy_nil : decodeLossy [] = [] := by
  rw [decodeLossy, decodeLossyFrom, List.reverse_nil]

theorem decodeLossyFrom_of_character {byte : UInt8} {bytes rest : List UInt8} {char : Char}
    (found : front byte bytes = .character char rest) (read : List Char) :
    decodeLossyFrom read (byte :: bytes) = decodeLossyFrom (char :: read) rest := by
  rw [decodeLossyFrom]
  split <;> simp_all

/-- The characters read before stay in front. -/
theorem decodeLossyFrom_eq (read : List Char) (bytes : List UInt8) :
    decodeLossyFrom read bytes = read.reverse ++ decodeLossy bytes := by
  unfold decodeLossy
  cases bytes with
  | nil => simp [decodeLossyFrom]
  | cons byte bytes =>
    rw [decodeLossyFrom, decodeLossyFrom]
    split
    · rename_i char rest found
      have fewer := length_lt_of_character found
      rw [decodeLossyFrom_eq _ rest, decodeLossyFrom_eq [char] rest]
      simp
    · rename_i length rest found
      have fewer := length_lt_of_front (congrArg Front.rest found)
      simp only [Front.rest] at fewer
      rw [decodeLossyFrom_eq _ rest, decodeLossyFrom_eq [replacement] rest]
      simp
    · simp
termination_by bytes.length
decreasing_by all_goals exact fewer

/-- **The lenient decoder undoes the encoder, whatever bytes follow.** -/
theorem decodeLossy_encode_append (text : List Char) (rest : List UInt8) :
    decodeLossy (encode text ++ rest) = text ++ decodeLossy rest := by
  induction text with
  | nil => rfl
  | cons char later ih =>
    obtain ⟨byte, bytes, same, found⟩ := front_encode char (encode later ++ rest)
    rw [encode_cons, List.append_assoc, same, decodeLossy, decodeLossyFrom_of_character found,
      decodeLossyFrom_eq, ih]
    rfl

theorem decodeLossy_encode (text : List Char) : decodeLossy (encode text) = text := by
  have whole := decodeLossy_encode_append text []
  rwa [List.append_nil, decodeLossy_nil, List.append_nil] at whole

/-- The bytes past the longest well-formed beginning start with no character. -/
theorem front_remainder_ne_character {bytes later : List UInt8} {byte : UInt8}
    (starts : remainder bytes = byte :: later) (char : Char) (rest : List UInt8) :
    front byte later ≠ .character char rest := by
  intro found
  have whole := encode_append_remainder bytes
  rw [starts, encode_of_front found] at whole
  have longer : encode ((decode bytes).text ++ [char]) <+: bytes := by
    refine ⟨rest, ?_⟩
    rw [encode_append, encode_cons, encode_nil, List.append_nil, List.append_assoc, whole]
  have same := (prefix_decode longer).length_le
  rw [List.length_append, List.length_singleton] at same
  omega

/-- The lenient decoder decodes the longest well-formed beginning, and the bytes past
it by themselves. -/
theorem decodeLossy_eq_append (bytes : List UInt8) :
    decodeLossy bytes = (decode bytes).text ++ decodeLossy (remainder bytes) := by
  conv => lhs; rw [← encode_append_remainder bytes]
  exact decodeLossy_encode_append _ _

/-- **The lenient decoder shows the longest well-formed beginning,** and behind it a
replacement character if the bytes go on. -/
theorem decodeLossy_eq (bytes : List UInt8) :
    remainder bytes = [] ∧ decodeLossy bytes = (decode bytes).text ∨
      remainder bytes ≠ [] ∧
        ∃ more, decodeLossy bytes = (decode bytes).text ++ replacement :: more := by
  have shown := decodeLossy_eq_append bytes
  cases starts : remainder bytes with
  | nil =>
    rw [starts, decodeLossy_nil, List.append_nil] at shown
    exact .inl ⟨rfl, shown⟩
  | cons byte later =>
    have replaced : ∃ more, decodeLossy (byte :: later) = replacement :: more := by
      rw [decodeLossy, decodeLossyFrom]
      split
      · rename_i char rest found
        exact absurd found (front_remainder_ne_character starts char rest)
      · rename_i rest found
        exact ⟨_, decodeLossyFrom_eq [replacement] rest⟩
      · exact ⟨[], rfl⟩
    obtain ⟨more, whole⟩ := replaced
    exact .inr ⟨List.cons_ne_nil _ _, more, by rw [shown, starts, whole]⟩

end Lexis.Utf8
