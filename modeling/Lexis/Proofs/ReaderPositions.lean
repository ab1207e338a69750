import Lexis.Proofs.Reading
import Lexis.Proofs.Requests

/-!
# The position that a line reader states

A line reader states the position of the character that it read last, and before the first
one the origin. A read that answers no character leaves that position as it is, with one
exception: a line that fails before its first character is entered all the same, and then
the reader stands on that line, in column zero (`LineReader.position_read`).

It enters a line only in order to read from it, so a fault that waits behind the characters
of a line is met in a column past the first (`LineReader.Waits`). The exception is therefore
told from the fault alone: it is a fault in the first column.
-/

namespace Lexis

set_option autoImplicit false

/-- Whether a call was a read that failed in the first column. -/
def Call.failsFirst : Call → Bool
  | .read (.failed fault) => fault.position?.any (·.column == 1)
  | .read (.char _) | .read .ended | .close => false

namespace LineReader

/-! ## Single reads -/

/-- A reader whose fault waits, if there is one, behind the characters left of its line. -/
def Waits (reader : LineReader) : Prop :=
  ∀ fault, reader.pending = some fault → ∃ cause, fault =
    .reading ⟨reader.line, .ofNatClamp (reader.handedOut + reader.unread.length + 1)⟩ cause

/-- A reader between two reads. If a fault waits on its line, it has read from the line. -/
structure Steady (reader : LineReader) : Prop where
  waits : reader.Waits
  begun : reader.pending ≠ none → 0 < reader.handedOut

/-- How a read that answers no character leaves the position. -/
inductive Leaves (reader next : LineReader) : Reading → Prop
  | ended : next.position = reader.position → Leaves reader next .ended
  /-- The rest of the line is missing. -/
  | failed {cause : Failure} : 0 < reader.handedOut → next.position = reader.position →
      Leaves reader next
        (.failed (.reading ⟨reader.line, .ofNatClamp (reader.handedOut + 1)⟩ cause))
  /-- The next line is missing from its first character on. -/
  | failedFirst {cause : Failure} : next.position = ⟨reader.line + 1, 0⟩ →
      Leaves reader next (.failed (.reading ⟨reader.line + 1, 1⟩ cause))

variable {reader next : LineReader} {answer : Reading}

/-- Taking in a line either finds none and leaves the position, or goes to the front of a line
that has something to hand out. -/
theorem fill_cases (usedUp : reader.handOut? = none) :
    (reader.fill.handOut? = none ∧ reader.fill.position = reader.position) ∨
      (reader.fill.handOut? ≠ none ∧ reader.fill.line = reader.line + 1 ∧
        reader.fill.handedOut = 0 ∧ reader.fill.Waits) := by
  cases asks : reader.closed || reader.exhausted with
  | true =>
    rw [fill, if_pos asks]
    exact .inl ⟨usedUp, rfl⟩
  | false =>
    by_cases nothing : (reader.stream.takeLine.bytes.isEmpty &&
        reader.stream.takeLine.failure.isNone) = true
    · obtain ⟨unread, pending⟩ := handOut?_eq_none_iff.mp usedUp
      simp only [fill, asks, nothing, Bool.false_eq_true, if_false, if_true]
      exact .inl ⟨handOut?_eq_none_iff.mpr ⟨unread, pending⟩, rfl⟩
    · have something := Bool.eq_false_iff.mpr nothing
      refine .inr ⟨handOut?_fill_ne_none asks something, ?_⟩
      rw [fill_of_some asks something]
      refine ⟨rfl, rfl, fun fault found => ?_⟩
      obtain ⟨cause, _, rfl⟩ := Option.map_eq_some_iff.mp found
      exact ⟨cause, by rw [Nat.zero_add]⟩

/-- A line is handed out to its end, and then the fault that waits in the next column. -/
theorem Waits.handOut? (waits : reader.Waits) (given : reader.handOut? = some (answer, next)) :
    next.Steady ∧ ((∀ char, answer ≠ .char char) → reader.pending ≠ none ∧
      next.position = reader.position ∧ ∃ cause, answer =
        .failed (.reading ⟨reader.line, .ofNatClamp (reader.handedOut + 1)⟩ cause)) := by
  unfold LineReader.handOut? at given
  split at given
  · rename_i _ later unread
    cases given
    refine ⟨⟨fun fault found => ?_, fun _ => Nat.succ_pos _⟩, fun other => absurd rfl (other _)⟩
    obtain ⟨cause, rfl⟩ := waits fault found
    refine ⟨cause, ?_⟩
    rw [unread, List.length_cons, Nat.add_comm later.length 1, ← Nat.add_assoc]
  · rename_i fault unread pending
    cases given
    obtain ⟨cause, rfl⟩ := waits fault pending
    refine ⟨⟨nofun, nofun⟩, fun _ => ⟨?_, rfl, cause, ?_⟩⟩
    · rw [pending]
      exact Option.some_ne_none _
    · rw [unread]
      rfl
  · cases given

/-- **What a read does to the position** if it answers no character. -/
theorem Steady.read (steady : reader.Steady) :
    reader.read.2.Steady ∧
      ((∀ char, reader.read.1 ≠ .char char) → Leaves reader reader.read.2 reader.read.1) := by
  unfold LineReader.read
  split
  · rename_i given
    obtain ⟨after, leaves⟩ := steady.waits.handOut? given
    refine ⟨after, fun other => ?_⟩
    obtain ⟨waiting, stays, cause, failed⟩ := leaves other
    rw [failed]
    exact .failed (steady.begun waiting) stays
  · rename_i nothing
    dsimp only
    rcases fill_cases nothing with ⟨still, stays⟩ | ⟨something, line, front, waits⟩
    · rw [still]
      obtain ⟨unread, pending⟩ := handOut?_eq_none_iff.mp still
      refine ⟨⟨fun fault found => ?_, fun waiting => absurd pending waiting⟩, fun _ => .ended stays⟩
      rw [show reader.fill.pending = some fault from found] at pending
      cases pending
    · obtain ⟨⟨answer, next⟩, given⟩ := Option.ne_none_iff_exists'.mp something
      obtain ⟨after, leaves⟩ := waits.handOut? given
      rw [given]
      refine ⟨after, fun other => ?_⟩
      obtain ⟨_, stays, cause, rfl⟩ := leaves other
      dsimp only
      rw [line, front]
      refine .failedFirst ?_
      rw [stays, position, line, front]
      rfl

/-- The column behind a character is not the first. -/
theorem ofNatClamp_ne_one {count : Nat} (positive : 0 < count) :
    UInt32.ofNatClamp (count + 1) ≠ 1 := by
  intro same
  have columns := congrArg UInt32.toNat same
  rw [toNat_ofNatClamp, show (1 : UInt32).toNat = 1 from rfl] at columns
  omega

namespace Leaves

variable (leaves : Leaves reader next answer)

include leaves

/-- **The position stays just where the read does not fail in the first column.** -/
theorem position_eq_iff :
    next.position = reader.position ↔ (Call.read answer).failsFirst = false := by
  cases leaves with
  | ended stays => exact iff_of_true stays rfl
  | failed begun stays => exact iff_of_true stays (beq_false_of_ne (ofNatClamp_ne_one begun))
  | failedFirst enters =>
    refine iff_of_false (fun stays => ?_) (by simp [Call.failsFirst, Fault.position?])
    have lines : reader.line + 1 = reader.line :=
      congrArg Position.line (enters.symm.trans stays)
    simp at lines

/-- A read that fails in the first column enters the line of the fault. -/
theorem exists_of_failsFirst (first : (Call.read answer).failsFirst = true) :
    ∃ place cause, answer = .failed (.reading place cause) ∧
      next.position = ⟨place.line, 0⟩ := by
  cases leaves with
  | ended => cases first
  | failed begun => exact absurd (eq_of_beq first) (ofNatClamp_ne_one begun)
  | failedFirst enters => exact ⟨_, _, rfl, enters⟩

end Leaves

/-! ## Reading on and on -/

theorem steady_after (stream : ByteStream) (count : Nat) :
    (Source.after (ofStream stream) count).Steady := by
  induction count with
  | zero => exact ⟨nofun, nofun⟩
  | succ count ih =>
    rw [Source.after_succ]
    exact ih.read.1

section Runs

variable {stream : ByteStream} {count : Nat}

/-- As long as there are characters to read, the reader states the place of the last one. -/
theorem position_after_of_le (within : count ≤ (Utf8.decode stream.readable).text.length) :
    Source.position (Source.after (ofStream stream) count) =
      lastPosition .origin (locate .start ((Utf8.decode stream.readable).text.take count)) := by
  cases count with
  | zero => rfl
  | succ count =>
    generalize whole : (Utf8.decode stream.readable).text = text at within
    have cut : text = text.take count ++ text[count] :: text.drop (count + 1) := by simp
    obtain ⟨_, position⟩ := read_after_ofStream (whole.trans cut)
    rw [List.length_take_of_le (Nat.le_of_succ_le within)] at position
    rw [position, ← List.take_append_getElem within, lastPosition_locate]

/-- Past the read that told how the text ended, the reader stays as it is. -/
theorem after_of_lt (past : (Utf8.decode stream.readable).text.length < count) :
    Source.after (ofStream stream) count =
      Source.after (ofStream stream) ((Utf8.decode stream.readable).text.length + 1) := by
  induction count, past using Nat.le_induction with
  | base => rfl
  | succ count past ih =>
    rw [Source.after_succ]
    show (read _).2 = _
    rw [(spent_after past).read_eq]
    exact ih

/-- What the reads of a stream answer, one after the other: its characters, how it ended, and
from then on that it has ended. -/
theorem read_after_cases (stream : ByteStream) (count : Nat) :
    (∃ char, (Utf8.decode stream.readable).text[count]? = some char ∧
        (Source.read (Source.after (ofStream stream) count)).1 = .char char) ∨
      ((Utf8.decode stream.readable).text.length = count ∧
        (Source.read (Source.after (ofStream stream) count)).1 =
          (Source.deliver (ofStream stream)).ending) ∨
      ((Utf8.decode stream.readable).text.length < count ∧
        (Source.read (Source.after (ofStream stream) count)).1 = .ended) := by
  rcases Nat.lt_trichotomy count (Utf8.decode stream.readable).text.length with within | rfl | past
  · generalize whole : (Utf8.decode stream.readable).text = text at within
    have cut : text = text.take count ++ text[count] :: text.drop (count + 1) := by simp
    have reads := (read_after_ofStream (whole.trans cut)).1
    rw [List.length_take_of_le (Nat.le_of_lt within)] at reads
    exact .inl ⟨text[count], List.getElem?_eq_getElem within, reads⟩
  · have reads := Source.read_after_length (ofStream stream)
    rw [deliver_ofStream, length_locate, ← deliver_ofStream] at reads
    exact .inr (.inl ⟨rfl, reads⟩)
  · refine .inr (.inr ⟨past, ?_⟩)
    exact congrArg Prod.fst (spent_after past).read_eq

/-- The record of the reads shows the characters that were read. -/
theorem drawn_after (stream : ByteStream) (count : Nat) :
    (Source.after (Watched.new (ofStream stream)) count).drawn =
      (Utf8.decode stream.readable).text.take count := by
  induction count with
  | zero => rfl
  | succ count ih =>
    have source : (Watched.new (ofStream stream)).source = ofStream stream := rfl
    rw [Watched.drawn_after_succ, source, ih]
    rcases read_after_cases stream count with ⟨char, found, answer⟩ | ⟨rfl, answer⟩ |
      ⟨past, answer⟩
    · rw [answer, List.take_add_one, found]
      rfl
    · rw [answer, Call.char?_ending, List.take_length, List.take_of_length_le (Nat.le_succ _)]
      exact List.append_nil _
    · rw [answer, List.take_of_length_le (Nat.le_of_lt past),
        List.take_of_length_le (Nat.le_succ_of_le (Nat.le_of_lt past))]
      exact List.append_nil _

/-- The record shows that the stream failed in the first column, once a read told so. -/
theorem any_failsFirst_after (stream : ByteStream) (count : Nat) :
    (Source.after (Watched.new (ofStream stream)) count).calls.any Call.failsFirst = true ↔
      (Utf8.decode stream.readable).text.length < count ∧
        (Call.read (Source.deliver (ofStream stream)).ending).failsFirst = true := by
  induction count with
  | zero => exact iff_of_false Bool.false_ne_true (fun told => Nat.not_lt_zero _ told.1)
  | succ count ih =>
    have source : (Watched.new (ofStream stream)).source = ofStream stream := rfl
    rw [Watched.calls_after_succ, source, List.any_append, Bool.or_eq_true, ih]
    rcases read_after_cases stream count with ⟨char, found, answer⟩ | ⟨rfl, answer⟩ |
      ⟨past, answer⟩
    · obtain ⟨within, _⟩ := List.getElem?_eq_some_iff.mp found
      rw [answer]
      simp only [Call.failsFirst, List.any_cons, List.any_nil, Bool.or_self, Bool.false_eq_true,
        or_false]
      omega
    · rw [answer]
      simp
    · rw [answer]
      simp [Call.failsFirst, past, Nat.lt_succ_of_lt past]

/-- How the read past the last character leaves the position. -/
theorem leaves_after_length (stream : ByteStream) :
    let reader := Source.after (ofStream stream)
    let length := (Utf8.decode stream.readable).text.length
    Leaves (reader length) (reader (length + 1)) (Source.deliver (ofStream stream)).ending := by
  intro reader length
  have answer := Source.read_after_length (ofStream stream)
  rw [deliver_ofStream, length_locate, ← deliver_ofStream] at answer
  have leaves := (steady_after stream length).read.2 fun char read =>
    Delivery.ending_ne_char _ char (answer.symm.trans read)
  rw [show reader (length + 1) = _ from Source.after_succ _ _, ← answer]
  exact leaves

/-- From then on the reader stands at the last character, or in column zero of the line that
it failed to read. -/
theorem position_after_of_lt (past : (Utf8.decode stream.readable).text.length < count) :
    Source.position (Source.after (ofStream stream) count) =
      if (Call.read (Source.deliver (ofStream stream)).ending).failsFirst then
        ⟨(Place.start.after (Utf8.decode stream.readable).text).position.line, 0⟩
      else lastPosition .origin (locate .start (Utf8.decode stream.readable).text) := by
  have before := position_after_of_le (Nat.le_refl (Utf8.decode stream.readable).text.length)
  have leaves := leaves_after_length stream
  rw [List.take_length] at before
  rw [after_of_lt past]
  split <;> rename_i first
  · obtain ⟨place, cause, failed, enters⟩ := leaves.exists_of_failsFirst first
    rw [deliver_ofStream, Delivery.ending] at failed
    cases ends : stream.cause? with
    | none =>
      rw [ends] at failed
      cases failed
    | some _ =>
      rw [ends] at failed
      cases failed
      exact enters
  · exact (leaves.position_eq_iff.mpr (Bool.eq_false_iff.mpr first)).trans before

end Runs

/-- **The position of a reader,** after any number of reads of any stream. It is the place
of the last character that was read, or the origin before the first, unless a read failed in
the first column: then it is column zero of the line that could not be read. A read that
answers a character goes to the place of that character. Any other read leaves the position
just as long as it does not fail in the first column. -/
theorem position_after (stream : ByteStream) (count : Nat) :
    let watched := Source.after (Watched.new (ofStream stream)) count
    let place := Place.start.after watched.drawn
    let next := Source.read watched
    watched.source = Source.after (ofStream stream) count ∧
      Source.position watched =
        (if watched.calls.any Call.failsFirst then ⟨place.position.line, 0⟩
          else lastPosition .origin (locate .start watched.drawn)) ∧
      match next.1 with
      | .char _ => Source.position next.2 = place.position
      | .ended | .failed _ => Source.position next.2 = Source.position watched ↔
          (Call.read next.1).failsFirst = false := by
  intro watched place next
  have source : watched.source = Source.after (ofStream stream) count :=
    Watched.source_after _ _
  have position :
      Source.position watched = Source.position (Source.after (ofStream stream) count) :=
    congrArg Source.position source
  refine ⟨source, ?_, ?_⟩
  · rw [position]
    simp only [watched, any_failsFirst_after, place, drawn_after]
    rcases Nat.lt_or_ge (Utf8.decode stream.readable).text.length count with past | within
    · rw [position_after_of_lt past, List.take_of_length_le (Nat.le_of_lt past)]
      simp [past]
    · rw [position_after_of_le within, if_neg fun told => Nat.not_lt.mpr within told.1]
  · have answer : next.1 = (Source.read (Source.after (ofStream stream) count)).1 :=
      congrArg (fun reader => (Source.read reader).1) source
    have reached : Source.position next.2 =
        Source.position (Source.read (Source.after (ofStream stream) count)).2 :=
      congrArg (fun reader => Source.position (Source.read reader).2) source
    have leaves := (steady_after stream count).read.2
    have stays (other : ∀ char, next.1 ≠ .char char) :
        Source.position next.2 = Source.position watched ↔
          (Call.read next.1).failsFirst = false := by
      rw [reached, position, answer]
      exact (leaves fun char read => other char (answer.trans read)).position_eq_iff
    split
    next char read =>
      rcases read_after_cases stream count with ⟨_, found, _⟩ | ⟨rfl, ending⟩ | ⟨_, ended⟩
      · obtain ⟨within, _⟩ := List.getElem?_eq_some_iff.mp found
        rw [reached, ← Source.after_succ, position_after_of_le within,
          ← List.take_append_getElem within, lastPosition_locate, ← drawn_after]
      · exact absurd (ending.symm.trans (answer.symm.trans read)) (Delivery.ending_ne_char _ char)
      · cases ended.symm.trans (answer.symm.trans read)
    next read => exact stays fun char => by rw [read]; exact nofun
    next fault read => exact stays fun char => by rw [read]; exact nofun

/-- Behind a line that cannot be read, a reader stands where it never read a character. -/
theorem position_after_broken_line :
    ¬∀ (stream : ByteStream) (count : Nat),
      let watched := Source.after (Watched.new (ofStream stream)) count
      Source.position watched = lastPosition .origin (locate .start watched.drawn) := by
  intro claimed
  exact absurd (claimed [.bytes [0xFF]] 1) (by decide +kernel)

end LineReader

end Lexis
