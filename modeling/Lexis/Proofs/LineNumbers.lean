import Lexis.Proofs.Overflows
import Lexis.Proofs.ReaderPositions

/-!
# The line numbers that a line reader states

A character stands on the line that is counted by the line feeds before it, and a line reader
counts the lines in 32 bits by adding one. Unlike a column, the number does not stay at the
highest one: the addition behind line `2 ^ 32 - 1` overflows (`LineReader.hasCounted_after`), and
the program stops at the read that asks for the first character of the next line.

So everything that is expected of line numbers holds just as long as all characters stand on
lines below `2 ^ 32` (`LineReader.LinesFit`). Reads that go through state the lines as they are,
from one and never decreasing, and a read does not go through just where its character stands on
a later line (`LineReader.checkedLine_ofStream`). No stream of fewer than `2 ^ 32` bytes is as
long as that (`LineReader.linesFit_of_length_lt`).
-/

namespace Lexis

set_option autoImplicit false

namespace LineReader

/-! ## Lines of characters -/

section Lines

variable (stream : ByteStream)

/-- Whether a read, after so many others, answers a character where no check stops it. -/
def ReadsChar (count : Nat) : Prop :=
  ∃ char, (Source.read (Source.after (ofStream stream) count)).1 = .char char

/-- The line that a reader states after so many reads without checks. -/
def statedLine (count : Nat) : UInt32 :=
  (Source.position (Source.after (ofStream stream) count)).line

/-- The line that a reader states after so many reads with checks. -/
def checkedLine (count : Nat) : Except Overflow UInt32 :=
  (Source.afterChecked (ofStream stream) count).map fun reader => (Source.position reader).line

/-- The line, counted from one without a bound, of the character that comes after so many
reads: one more than the line feeds that these have answered. -/
def lineBehind (count : Nat) : Nat :=
  (Source.after (Watched.new (ofStream stream)) count).drawn.count '\n' + 1

/-- All characters stand on lines that 32 bits can hold. -/
def LinesFit : Prop :=
  ∀ count, ReadsChar stream count → lineBehind stream count < 2 ^ 32

variable {stream} {count : Nat}

theorem readsChar_iff :
    ReadsChar stream count ↔ count < (Utf8.decode stream.readable).text.length := by
  constructor
  · rintro ⟨char, read⟩
    rcases read_after_cases stream count with ⟨_, found, _⟩ | ⟨_, ending⟩ | ⟨_, ended⟩
    · exact (List.getElem?_eq_some_iff.mp found).1
    · exact absurd (ending.symm.trans read) (Delivery.ending_ne_char _ char)
    · cases ended.symm.trans read
  · intro within
    rcases read_after_cases stream count with ⟨char, _, read⟩ | ⟨rfl, _⟩ | ⟨past, _⟩
    · exact ⟨char, read⟩
    · exact absurd within (Nat.lt_irrefl _)
    · exact absurd within (Nat.lt_asymm past)

theorem lineBehind_eq :
    lineBehind stream count = ((Utf8.decode stream.readable).text.take count).count '\n' + 1 := by
  rw [lineBehind, drawn_after]

/-- A character stands on the line of the one before it, or on the next one. -/
theorem lineBehind_succ :
    lineBehind stream count ≤ lineBehind stream (count + 1) ∧
      lineBehind stream (count + 1) ≤ lineBehind stream count + 1 := by
  rw [lineBehind_eq, lineBehind_eq, List.take_add_one, List.count_append]
  have feeds : (List.count '\n' (Utf8.decode stream.readable).text[count]?.toList) ≤ 1 :=
    Nat.le_trans List.count_le_length Option.length_toList_le
  omega

/-- **A reader states the line of the character that it read,** without its carry out of 32
bits. -/
theorem statedLine_succ (reads : ReadsChar stream count) :
    (statedLine stream (count + 1)).toNat = lineBehind stream count % 2 ^ 32 := by
  have within := readsChar_iff.mp reads
  rw [statedLine, position_after_of_le within, ← List.take_append_getElem within,
    lastPosition_locate, Place.position, Place.line_after, lineBehind_eq, Nat.add_comm]
  exact UInt32.toNat_ofNat'

end Lines

/-! ## Where counting overflows -/

/-- Whether a reader has come to another by staying on its line or by counting one more. -/
def CountsTo (reader next : LineReader) : Prop :=
  (next.line = reader.line ∧ next.overflowed = reader.overflowed) ∨
    (next.line = reader.line + 1 ∧
      next.overflowed = (reader.overflowed || (increment? reader.line).isNone))

theorem CountsTo.handOut? {reader filled next : LineReader} {reading : Reading}
    (counts : CountsTo reader filled) (answer : filled.handOut? = some (reading, next)) :
    CountsTo reader next := by
  have line : next.line = filled.line := by
    unfold LineReader.handOut? at answer
    split at answer <;> cases answer <;> rfl
  unfold CountsTo
  rw [line, overflowed_of_handOut? answer]
  exact counts

theorem countsTo_fill (reader : LineReader) : CountsTo reader reader.fill := by
  unfold fill
  split
  · exact .inl ⟨rfl, rfl⟩
  · dsimp only
    split
    · exact .inl ⟨rfl, rfl⟩
    · exact .inr ⟨rfl, rfl⟩

/-- **A read stays on the line, or counts one more.** -/
theorem countsTo_read (reader : LineReader) : CountsTo reader reader.read.2 := by
  unfold read
  split
  · rename_i given
    exact CountsTo.handOut? (.inl ⟨rfl, rfl⟩) given
  · dsimp only
    split
    · rename_i given
      exact (countsTo_fill reader).handOut? given
    · exact countsTo_fill reader

/-- A reader that has counted so many lines, without its carry out of 32 bits. -/
structure HasCounted (lines : Nat) (reader : LineReader) : Prop where
  line : reader.line.toNat = lines % 2 ^ 32
  overflowed : reader.overflowed = true ↔ 2 ^ 32 ≤ lines

theorem HasCounted.step {reader next : LineReader} {lines : Nat}
    (counted : reader.HasCounted lines) (counts : CountsTo reader next) :
    next.HasCounted lines ∨ next.HasCounted (lines + 1) := by
  obtain ⟨line, overflowed⟩ := counted
  rcases counts with ⟨sameLine, same⟩ | ⟨nextLine, next⟩
  · exact .inl ⟨sameLine ▸ line, same ▸ overflowed⟩
  · refine .inr ⟨?_, ?_⟩
    · rw [nextLine, UInt32.toNat_add, line]
      exact Nat.mod_add_mod lines (2 ^ 32) 1
    · rw [next, Bool.or_eq_true, overflowed, Option.isNone_iff_eq_none, increment?_eq_none_iff,
        line]
      omega

section Counting

variable {stream : ByteStream} {count : Nat}

/-- The line, counted without a bound, of the character that was read last, and zero before the
first. -/
def lineReached (stream : ByteStream) : Nat → Nat
  | 0 => 0
  | count + 1 => lineBehind stream count

theorem lineReached_succ :
    lineReached stream (count + 1) = lineReached stream count ∨
      lineReached stream (count + 1) = lineReached stream count + 1 := by
  cases count with
  | zero => exact .inr rfl
  | succ count =>
    have step := @lineBehind_succ stream count
    simp only [lineReached]
    omega

/-- **As long as there are characters, the lines up to the last one are counted.** -/
theorem hasCounted_after (within : count ≤ (Utf8.decode stream.readable).text.length) :
    HasCounted (lineReached stream count) (Source.after (ofStream stream) count) := by
  induction count with
  | zero => exact ⟨rfl, iff_of_false Bool.false_ne_true (Nat.not_le.mpr (Nat.two_pow_pos 32))⟩
  | succ count ih =>
    have line := statedLine_succ (readsChar_iff.mpr within)
    have step := (ih (Nat.le_of_succ_le within)).step
      (countsTo_read (Source.after (ofStream stream) count))
    rw [show (read (Source.after (ofStream stream) count)).2 = _ from
      (Source.after_succ _ _).symm] at step
    -- The line that the reader states tells which of the two it is.
    have stated (lines : Nat)
        (counted : HasCounted lines (Source.after (ofStream stream) (count + 1))) :
        lines % 2 ^ 32 = lineReached stream (count + 1) % 2 ^ 32 := counted.line.symm.trans line
    rcases step with counted | counted <;>
      rcases @lineReached_succ stream count with reached | reached
    · rwa [reached]
    · have same := stated _ counted
      omega
    · have same := stated _ counted
      omega
    · rwa [reached]

theorem checkedLine_of_le (within : count ≤ (Utf8.decode stream.readable).text.length) :
    checkedLine stream count =
      if lineReached stream count < 2 ^ 32 then .ok (.ofNat (lineReached stream count))
      else .error .line := by
  have counted := hasCounted_after within
  have line : statedLine stream count = .ofNat (lineReached stream count) :=
    UInt32.toNat_inj.mp (counted.line.trans UInt32.toNat_ofNat'.symm)
  have overflows : Source.overflowed (Source.after (ofStream stream) count) = true ↔
      ¬lineReached stream count < 2 ^ 32 := counted.overflowed.trans Nat.not_lt.symm
  rw [checkedLine, Source.afterChecked_eq rfl]
  by_cases fits : lineReached stream count < 2 ^ 32
  · rw [if_pos fits, if_neg (mt overflows.mp (not_not_intro fits)), ← line]
    rfl
  · rw [if_neg fits, if_pos (overflows.mpr fits)]
    rfl

/-- **A read with checks states the line of its character, or the program stops.** -/
theorem checkedLine_succ (reads : ReadsChar stream count) :
    checkedLine stream (count + 1) =
      if lineBehind stream count < 2 ^ 32 then .ok (.ofNat (lineBehind stream count))
      else .error .line :=
  checkedLine_of_le (readsChar_iff.mp reads)

/-- Before a late line is reached, the first of the late lines is entered. -/
theorem exists_enters {limit : Nat} (first : 1 < limit) (late : limit ≤ lineBehind stream count) :
    ∃ earlier, earlier < count ∧ lineBehind stream earlier + 1 = limit ∧
      lineBehind stream (earlier + 1) = limit := by
  induction count with
  | zero => exact absurd late (Nat.not_le.mpr first)
  | succ count ih =>
    have step := @lineBehind_succ stream count
    by_cases before : limit ≤ lineBehind stream count
    · obtain ⟨earlier, less, enters⟩ := ih before
      exact ⟨earlier, Nat.lt_succ_of_lt less, enters⟩
    · exact ⟨count, Nat.lt_succ_self count, by omega, by omega⟩

/-- **Where lines do not fit, the program stops** at the first character behind the line with
the highest number. -/
theorem exists_stops (late : ¬LinesFit stream) :
    ∃ count, ReadsChar stream count ∧ checkedLine stream count = .ok 4294967295 ∧
      checkedLine stream (count + 1) = .error .line := by
  simp only [LinesFit, not_forall, Nat.not_lt] at late
  obtain ⟨count, reads, late⟩ := late
  obtain ⟨earlier, less, before, enters⟩ := exists_enters (by decide) late
  have within := readsChar_iff.mp reads
  have readsBefore : ReadsChar stream earlier := readsChar_iff.mpr (Nat.lt_trans less within)
  have readsFirst : ReadsChar stream (earlier + 1) :=
    readsChar_iff.mpr (Nat.lt_of_le_of_lt less within)
  refine ⟨earlier + 1, readsFirst, ?_, ?_⟩
  · rw [checkedLine_succ readsBefore, if_pos (by omega), Nat.eq_sub_of_add_eq before]
    rfl
  · rw [checkedLine_succ readsFirst, enters, if_neg (Nat.lt_irrefl _)]

/-- A stream of fewer than `2 ^ 32` bytes has no late lines. -/
theorem linesFit_of_length_lt (short : stream.readable.length < 2 ^ 32) : LinesFit stream := by
  intro count reads
  have within := readsChar_iff.mp reads
  have chars := Utf8.length_text_decodeFrom 0 [] stream.readable
  have feeds : ((Utf8.decode stream.readable).text.take count).count '\n' ≤ _ :=
    List.count_le_length
  rw [List.length_take_of_le (Nat.le_of_lt within)] at feeds
  rw [lineBehind_eq]
  simp only [Utf8.decode, List.length_nil] at chars within feeds ⊢
  omega

/-- **Line numbers never wrap, and the program stops where they would.** A read with checks
states the line of its character exactly where that fits in 32 bits, and elsewhere it does not
go through. So the lines that are stated count from one and never decrease: each is that of the
character before or one more. All reads of characters go through just as long as the lines of
all characters fit, and otherwise the program stops behind the line with the highest number. -/
theorem checkedLine_ofStream (stream : ByteStream) :
    (∀ count, ReadsChar stream count →
      checkedLine stream (count + 1) =
        if lineBehind stream count < 2 ^ 32 then .ok (.ofNat (lineBehind stream count))
        else .error .line) ∧
    (∀ count line, ReadsChar stream count → checkedLine stream (count + 1) = .ok line →
      1 ≤ line ∧ line.toNat = lineBehind stream count ∧
        ∃ before, checkedLine stream count = .ok before ∧ before ≤ line ∧
          (line.toNat = before.toNat ∨ line.toNat = before.toNat + 1)) ∧
    ((∀ count, ReadsChar stream count → ∃ line, checkedLine stream (count + 1) = .ok line) ↔
      LinesFit stream) ∧
    (¬LinesFit stream → ∃ count, ReadsChar stream count ∧
      checkedLine stream count = .ok 4294967295 ∧
      checkedLine stream (count + 1) = .error .line) := by
  refine ⟨fun count => checkedLine_succ, fun count line reads states => ?_,
    ⟨fun through count reads => ?_, fun fit count reads => ?_⟩, exists_stops⟩
  · rw [checkedLine_succ reads] at states
    split at states
    · rename_i fits
      obtain rfl := Except.ok.inj states
      have number : (UInt32.ofNat (lineBehind stream count)).toNat = lineBehind stream count :=
        UInt32.toNat_ofNat_of_lt fits
      have step := @lineReached_succ stream count
      have reached : lineReached stream (count + 1) = lineBehind stream count := rfl
      have below : lineReached stream count < 2 ^ 32 := by omega
      have before : (UInt32.ofNat (lineReached stream count)).toNat = lineReached stream count :=
        UInt32.toNat_ofNat_of_lt below
      refine ⟨?_, number, .ofNat (lineReached stream count), ?_, ?_, ?_⟩
      · rw [UInt32.le_iff_toNat_le, number]
        exact Nat.le_add_left 1 _
      · rw [checkedLine_of_le (Nat.le_of_lt (readsChar_iff.mp reads)), if_pos below]
      · rw [UInt32.le_iff_toNat_le, number, before]
        omega
      · rw [number, before]
        omega
    · cases states
  · obtain ⟨line, states⟩ := through count reads
    by_contra late
    rw [checkedLine_succ reads, if_neg late] at states
    cases states
  · exact ⟨_, (checkedLine_succ reads).trans (if_pos (fit count reads))⟩

/-- A blank line between two others, with an interruption. -/
theorem checkedLine_ofStream_blank_line :
    let stream : ByteStream := [.bytes [0x61, 0x0A], .interrupted, .bytes [0x0A, 0x62]]
    ReadsChar stream 3 ∧ lineBehind stream 3 = 3 ∧ checkedLine stream 4 = .ok 3 ∧
      (∃ before, checkedLine stream 3 = .ok before ∧ before ≤ 3) ∧
      ∀ count, ReadsChar stream count → ∃ line, checkedLine stream (count + 1) = .ok line := by
  intro stream
  have reads : ReadsChar stream 3 := ⟨'b', by decide +kernel⟩
  have behind : lineBehind stream 3 = 3 := by decide +kernel
  obtain ⟨stated, rises, through, _⟩ := checkedLine_ofStream stream
  have line : checkedLine stream 4 = .ok 3 := by
    rw [stated 3 reads, behind]
    rfl
  obtain ⟨_, _, before, states, less, _⟩ := rises 3 3 reads line
  exact ⟨reads, behind, line, ⟨before, states, less⟩,
    through.mpr (linesFit_of_length_lt (by decide))⟩

/-! ### A stream of line feeds -/

/-- A stream of so many line feeds. -/
def lineFeeds (count : Nat) : ByteStream :=
  [.bytes (List.replicate count lineFeed)]

theorem text_lineFeeds (length : Nat) :
    (Utf8.decode (lineFeeds length).readable).text = List.replicate length '\n' := by
  have encoded : (lineFeeds length).readable = Utf8.encode (List.replicate length '\n') := by
    show List.replicate length lineFeed ++ [] = _
    rw [List.append_nil]
    induction length with
    | zero => rfl
    | succ length ih =>
      rw [List.replicate_succ, List.replicate_succ, Utf8.encode_cons, Utf8.encode_lineFeed, ← ih]
      rfl
  rw [encoded, (Utf8.decode_encode _).1]

/-- The line feed behind so many others stands on the line past theirs. -/
theorem lineBehind_lineFeeds {length : Nat} (within : count < length) :
    ReadsChar (lineFeeds length) count ∧ lineBehind (lineFeeds length) count = count + 1 := by
  constructor
  · rw [readsChar_iff, text_lineFeeds, List.length_replicate]
    exact within
  · rw [lineBehind_eq, text_lineFeeds, List.take_replicate, Nat.min_eq_left (Nat.le_of_lt within),
      List.count_replicate_self]

/-- The program stops at the last of `2 ^ 32` line feeds. -/
theorem not_checkedLine_ofStream :
    ¬∀ (stream : ByteStream) (count : Nat), ReadsChar stream count →
      ∃ line before, checkedLine stream (count + 1) = .ok line ∧
        checkedLine stream count = .ok before ∧ 1 ≤ line ∧ before ≤ line := by
  intro claimed
  obtain ⟨reads, last⟩ := lineBehind_lineFeeds (show 2 ^ 32 - 1 < 2 ^ 32 by decide)
  obtain ⟨line, _, states, _⟩ := claimed (lineFeeds (2 ^ 32)) (2 ^ 32 - 1) reads
  rw [checkedLine_succ reads, last] at states
  cases states

end Counting

end LineReader

end Lexis
