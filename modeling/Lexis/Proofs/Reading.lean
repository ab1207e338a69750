import Lexis.Source.LineReader
import Lexis.Proofs.Delivery
import Lexis.Proofs.Placement
import Lexis.Proofs.Utf8

/-!
# What a line reader reads

The bytes of a stream that can be read are those before its first failure
(`ByteStream.readable`, `ByteStream.failure?`). They do not show how the stream
is cut into pieces or where it was interrupted, and taking a line takes the
first line of them (`ByteStream.takeLine_of_mem`).

A line reader delivers the longest well-formed beginning of the readable bytes,
every character at its place, and then the cause that ended the stream
(`LineReader.deliver_ofStream`). The cause is a malformation of the line that
holds the first byte past that beginning, if the line was completed, and the
failure of the stream comes first otherwise (`ByteStream.cause?`). When it has
told how it ended, a reader only answers that it has (`LineReader.Spent`).
-/

namespace Lexis

set_option autoImplicit false

/-! ## The readable bytes of a stream -/

namespace ByteStream

/-- The bytes before the first failure. -/
def readable : ByteStream → List UInt8
  | [] => []
  | .interrupted :: later => readable later
  | .failure _ :: _ => []
  | .bytes content :: later => content ++ readable later

/-- The first failure. -/
def failure? : ByteStream → Option Failure
  | [] => none
  | .interrupted :: later => failure? later
  | .failure cause :: _ => some cause
  | .bytes _ :: later => failure? later

/-- Without a line feed, taking a line takes all that is readable, and after it
a stream that did not fail is empty. -/
theorem takeLine_of_not_mem {stream : ByteStream} (absent : lineFeed ∉ stream.readable) :
    stream.takeLine.bytes = stream.readable ∧ stream.takeLine.failure = stream.failure? ∧
      (stream.failure? = none → stream.takeLine.rest = []) := by
  induction stream with
  | nil => exact ⟨rfl, rfl, fun _ => rfl⟩
  | cons chunk later ih =>
    cases chunk with
    | interrupted => exact ih absent
    | failure cause => exact ⟨rfl, rfl, nofun⟩
    | bytes content =>
      rw [readable, List.mem_append, not_or] at absent
      have all : ∀ byte ∈ content, (byte != lineFeed) = true := fun byte member =>
        bne_iff_ne.mpr fun same => absent.1 (same ▸ member)
      obtain ⟨bytes, failure, rest⟩ := ih absent.2
      rw [takeLine, List.dropWhile_eq_nil_iff.mpr all, List.takeWhile_eq_self_iff.mpr all]
      exact ⟨congrArg (content ++ ·) bytes, failure, rest⟩

/-- Taking a line takes the bytes through the first line feed that is readable,
without a failure, and leaves the bytes after it with the failure after them. -/
theorem takeLine_of_mem {stream : ByteStream} {line more : List UInt8}
    (whole : stream.readable = line ++ lineFeed :: more) (absent : lineFeed ∉ line) :
    stream.takeLine.bytes = line ++ [lineFeed] ∧ stream.takeLine.failure = none ∧
      stream.takeLine.rest.readable = more ∧ stream.takeLine.rest.failure? = stream.failure? := by
  induction stream generalizing line with
  | nil => simp [readable] at whole
  | cons chunk later ih =>
    cases chunk with
    | interrupted => exact ih whole absent
    | failure cause => simp [readable] at whole
    | bytes content =>
      rw [readable, List.append_eq_append_iff] at whole
      rcases whole with ⟨left, rfl, whole⟩ | ⟨right, rfl, whole⟩
      · -- The pieces so far lie inside the line.
        rw [List.mem_append, not_or] at absent
        have all : ∀ byte ∈ content, (byte != lineFeed) = true := fun byte member =>
          bne_iff_ne.mpr fun same => absent.1 (same ▸ member)
        obtain ⟨bytes, failure, readable', failure'⟩ := ih whole absent.2
        rw [takeLine, List.dropWhile_eq_nil_iff.mpr all, List.takeWhile_eq_self_iff.mpr all]
        exact ⟨by simp [bytes], failure, readable', failure'⟩
      · have all : ∀ byte ∈ line, (byte != lineFeed) = true := fun byte member =>
          bne_iff_ne.mpr fun same => absent (same ▸ member)
        cases right with
        | nil =>
          obtain ⟨bytes, failure, readable', failure'⟩ := @ih [] whole.symm List.not_mem_nil
          rw [List.append_nil, takeLine, List.dropWhile_eq_nil_iff.mpr all,
            List.takeWhile_eq_self_iff.mpr all]
          exact ⟨by simp [bytes], failure, readable', failure'⟩
        | cons feed after =>
          obtain ⟨rfl, rfl⟩ := List.cons.inj whole
          rw [takeLine, List.dropWhile_append_of_pos all, List.takeWhile_append_of_pos all]
          simp [readable, failure?]

/-! ## What ends a stream -/

/-- The bytes through the first line feed, or all there are. -/
def throughLineFeed (bytes : List UInt8) : List UInt8 :=
  bytes.takeWhile (· != lineFeed) ++ (bytes.dropWhile (· != lineFeed)).take 1

theorem throughLineFeed_of_not_mem {bytes : List UInt8} (absent : lineFeed ∉ bytes) :
    throughLineFeed bytes = bytes := by
  have all : ∀ byte ∈ bytes, (byte != lineFeed) = true := fun byte member =>
    bne_iff_ne.mpr fun same => absent (same ▸ member)
  rw [throughLineFeed, List.takeWhile_eq_self_iff.mpr all, List.dropWhile_eq_nil_iff.mpr all,
    List.take_nil, List.append_nil]

theorem throughLineFeed_append_cons {line : List UInt8} (absent : lineFeed ∉ line)
    (more : List UInt8) : throughLineFeed (line ++ lineFeed :: more) = line ++ [lineFeed] := by
  have all : ∀ byte ∈ line, (byte != lineFeed) = true := fun byte member =>
    bne_iff_ne.mpr fun same => absent (same ▸ member)
  rw [throughLineFeed, List.takeWhile_append_of_pos all, List.dropWhile_append_of_pos all]
  simp

/-- What is wrong with the line that holds the first byte past the longest
well-formed beginning, if there is such a byte. -/
def malformation? (bytes : List UInt8) : Option Utf8.Malformation :=
  (Utf8.decode (Utf8.encode (openLine (Utf8.decode bytes).text) ++
    throughLineFeed (Utf8.remainder bytes))).malformation

/-- What ends a stream, if it does not just end: what is wrong with a line that
was completed, or else the failure, or else what is wrong with the last line. -/
def cause? (stream : ByteStream) : Option Failure :=
  let malformed := (malformation? stream.readable).map Failure.ofMalformation
  if lineFeed ∈ Utf8.remainder stream.readable then malformed else stream.failure? <|> malformed

theorem throughLineFeed_eq_nil {bytes : List UInt8} (empty : throughLineFeed bytes = []) :
    bytes = [] := by
  obtain ⟨first, rest⟩ := List.append_eq_nil_iff.mp empty
  rw [← List.takeWhile_append_dropWhile (p := (· != lineFeed)) (l := bytes), first,
    (List.take_eq_nil_iff.mp rest).resolve_left (by decide), List.append_nil]

theorem throughLineFeed_begins (bytes : List UInt8) : throughLineFeed bytes <+: bytes := by
  conv => rhs; rw [← List.takeWhile_append_dropWhile (p := (· != lineFeed)) (l := bytes)]
  exact (List.prefix_append_right_inj _).mpr (List.take_prefix 1 _)

/-- Nothing is wrong only if there is no byte past the well-formed beginning. -/
theorem malformation?_eq_none_iff {bytes : List UInt8} :
    malformation? bytes = none ↔ Utf8.remainder bytes = [] := by
  rw [malformation?, ← Option.isNone_iff_eq_none]
  constructor
  · intro clean
    obtain ⟨text, line⟩ : ∃ text, throughLineFeed (Utf8.remainder bytes) = Utf8.encode text := by
      have whole := Utf8.encode_append_remainder
        (Utf8.encode (openLine (Utf8.decode bytes).text) ++
          throughLineFeed (Utf8.remainder bytes))
      rw [Utf8.remainder_eq_nil_iff.mpr clean, List.append_nil,
        (Utf8.decode_encode_append _ _).1, Utf8.encode_append] at whole
      exact ⟨_, (List.append_cancel_left whole).symm⟩
    have longer : Utf8.encode ((Utf8.decode bytes).text ++ text) <+: bytes := by
      rw [Utf8.encode_append, ← line]
      conv => rhs; rw [← Utf8.encode_append_remainder bytes]
      exact (List.prefix_append_right_inj _).mpr (throughLineFeed_begins _)
    have same := (Utf8.prefix_decode longer).length_le
    rw [List.length_append] at same
    rw [List.eq_nil_of_length_eq_zero (by omega : text.length = 0)] at line
    exact throughLineFeed_eq_nil line
  · intro empty
    rw [empty, show throughLineFeed [] = [] from rfl, List.append_nil]
    exact (Utf8.decode_encode (openLine (Utf8.decode bytes).text)).2

/-- Where no line is completed, the bytes are one line. -/
theorem malformation?_of_not_mem {bytes : List UInt8} (absent : lineFeed ∉ bytes) :
    lineFeed ∉ Utf8.remainder bytes ∧ '\n' ∉ (Utf8.decode bytes).text ∧
      malformation? bytes = (Utf8.decode bytes).malformation := by
  have whole := Utf8.encode_append_remainder bytes
  have parts := absent
  rw [← whole, List.mem_append, not_or, Utf8.lineFeed_mem_encode] at parts
  refine ⟨parts.2, parts.1, ?_⟩
  rw [malformation?, openLine_of_not_mem parts.1, throughLineFeed_of_not_mem parts.2, whole]

/-- Without a readable line feed, the failure of a stream comes before what is
wrong with its bytes. -/
theorem cause?_of_not_mem {stream : ByteStream} (absent : lineFeed ∉ stream.readable) :
    stream.cause? = (stream.failure? <|>
      (Utf8.decode stream.readable).malformation.map Failure.ofMalformation) := by
  obtain ⟨left, _, malformation⟩ := malformation?_of_not_mem absent
  rw [cause?, if_neg left, malformation]

/-- A stream just ends if all its bytes are read and it does not fail. -/
theorem cause?_eq_none_iff {stream : ByteStream} :
    stream.cause? = none ↔ Utf8.remainder stream.readable = [] ∧ stream.failure? = none := by
  rw [← malformation?_eq_none_iff, cause?]
  split
  · rename_i completed
    have something : malformation? stream.readable ≠ none := fun absent => by
      rw [malformation?_eq_none_iff.mp absent] at completed
      cases completed
    simp [something]
  · simp [and_comm]

theorem cause?_of_completed {stream : ByteStream}
    (completed : stream.failure? = none ∨ lineFeed ∈ Utf8.remainder stream.readable) :
    stream.cause? = (malformation? stream.readable).map Failure.ofMalformation := by
  rw [cause?]
  split
  · rfl
  · rename_i noFailure
    rw [completed.resolve_right noFailure]
    rfl

/-- A well-formed first line leaves what is wrong to the bytes after it. -/
theorem malformation?_of_clean {line more : List UInt8}
    (clean : (Utf8.decode (line ++ [lineFeed])).clean = true) :
    malformation? (line ++ lineFeed :: more) = malformation? more := by
  obtain ⟨before, text, _⟩ := Utf8.exists_decode_line clean
  rw [← List.singleton_append, ← List.append_assoc, malformation?,
    Utf8.remainder_append_of_clean clean, (Utf8.decode_append_of_clean clean more).1, text,
    List.append_assoc, List.singleton_append, openLine_append_cons, malformation?]

/-- A broken first line is what is wrong. -/
theorem malformation?_of_broken {line : List UInt8} (more : List UInt8) (absent : lineFeed ∉ line)
    (broken : (Utf8.decode (line ++ [lineFeed])).clean = false) :
    lineFeed ∈ Utf8.remainder (line ++ lineFeed :: more) ∧
      '\n' ∉ (Utf8.decode (line ++ [lineFeed])).text ∧
      malformation? (line ++ lineFeed :: more) =
        (Utf8.decode (line ++ [lineFeed])).malformation := by
  obtain ⟨left, whole, rest⟩ := Utf8.remainder_append_of_broken broken more
  have parts := absent
  rw [whole, List.mem_append, not_or, Utf8.lineFeed_mem_encode] at parts
  rw [malformation?, rest, (Utf8.decode_append_of_broken broken more).1,
    openLine_of_not_mem parts.1, throughLineFeed_append_cons parts.2, ← List.append_assoc, ← whole]
  exact ⟨by simp, parts.1, rfl⟩

theorem cause?_of_broken {stream : ByteStream} {line more : List UInt8}
    (whole : stream.readable = line ++ lineFeed :: more) (absent : lineFeed ∉ line)
    (broken : (Utf8.decode (line ++ [lineFeed])).clean = false) :
    stream.cause? =
      (Utf8.decode (line ++ [lineFeed])).malformation.map Failure.ofMalformation := by
  obtain ⟨left, _, malformation⟩ := malformation?_of_broken more absent broken
  rw [cause?, whole, if_pos left, malformation]

/-- A stream with a well-formed first line is ended by what ends the rest of
it. -/
theorem cause?_of_clean {stream rest : ByteStream} {line : List UInt8}
    (whole : stream.readable = line ++ lineFeed :: rest.readable)
    (failure : rest.failure? = stream.failure?)
    (clean : (Utf8.decode (line ++ [lineFeed])).clean = true) : stream.cause? = rest.cause? := by
  have remainder : Utf8.remainder stream.readable = Utf8.remainder rest.readable := by
    rw [whole, ← List.singleton_append, ← List.append_assoc,
      Utf8.remainder_append_of_clean clean]
  rw [cause?, cause?, remainder, failure, whole, malformation?_of_clean clean]

end ByteStream

/-! ## The characters of a line -/

namespace LineReader

/-- A reader between two lines: the current line, of the number given, is used
up. -/
def between (stream : ByteStream) (line handedOut : Nat) (overflowed : Bool) : LineReader :=
  ⟨stream, false, false, [], handedOut, .ofNat line, none, overflowed⟩

/-- A reader delivers the characters of its line, each in the next column. -/
theorem deliver_unread {reader : LineReader} (place : Place)
    (oneLine : '\n' ∉ reader.unread.dropLast) (line : reader.line = .ofNat place.line)
    (column : place.column = reader.handedOut + 1) :
    Source.deliver reader = .after (locate place reader.unread)
      (Source.deliver
        { reader with unread := [], handedOut := reader.handedOut + reader.unread.length }) := by
  obtain ⟨stream, closed, exhausted, unread, handedOut, number, pending, overflowed⟩ := reader
  dsimp only at oneLine line column ⊢
  induction unread generalizing place handedOut with
  | nil => rfl
  | cons char later ih =>
    let next : LineReader :=
      ⟨stream, closed, exhausted, later, handedOut + 1, number, pending, overflowed⟩
    have answer : Source.read (LineReader.mk stream closed exhausted (char :: later) handedOut
        number pending overflowed) = (.char char, next) := rfl
    have position : Source.position next = place.position := by
      show Position.mk number (.ofNatClamp (handedOut + 1)) = _
      rw [Place.position, line, column]
    rw [Source.deliver_of_char answer, position, locate]
    dsimp only [next]
    cases later with
    | nil => rfl
    | cons next later =>
      rw [List.dropLast_cons_cons, List.mem_cons, not_or] at oneLine
      rw [Place.next_of_ne (Ne.symm oneLine.1),
        @ih ⟨place.line, place.column + 1⟩ (handedOut + 1) oneLine.2 line
          (congrArg (· + 1) column),
        Delivery.after_after]
      simp only [List.singleton_append, List.length_cons]
      congr 3
      omega

/-- Taking in a line that has something to hand out is part of reading on. -/
theorem deliver_fill {reader : LineReader} (usedUp : reader.handOut? = none)
    (something : reader.fill.handOut? ≠ none) :
    Source.deliver reader = Source.deliver reader.fill := by
  obtain ⟨answer, given⟩ := Option.ne_none_iff_exists'.mp something
  refine Source.deliver_congr ?_
  show reader.read = reader.fill.read
  simp only [read, usedUp, given]

/-- What ends a line that was taken from a stream before its line feed. -/
def lineCause? (taken : TakenLine) : Option Failure :=
  taken.failure <|> (Utf8.decode taken.bytes).malformation.map Failure.ofMalformation

/-- A line that nothing ended early is the encoding of its text. -/
theorem encode_of_lineCause?_eq_none {taken : TakenLine} (absent : lineCause? taken = none) :
    taken.failure = none ∧ Utf8.encode (Utf8.decode taken.bytes).text = taken.bytes := by
  rw [lineCause?, Option.orElse_eq_orElse, Option.orElse_eq_or, Option.or_eq_none_iff] at absent
  obtain ⟨failure, malformation⟩ := absent
  have clean : (Utf8.decode taken.bytes).clean = true :=
    Option.isNone_iff_eq_none.mpr (Option.map_eq_none_iff.mp malformation)
  have whole := Utf8.encode_append_remainder taken.bytes
  rw [Utf8.remainder_eq_nil_iff.mpr clean, List.append_nil] at whole
  exact ⟨failure, whole⟩

section Filling

variable {reader : LineReader} (asks : (reader.closed || reader.exhausted) = false)
  (something :
    (reader.stream.takeLine.bytes.isEmpty && reader.stream.takeLine.failure.isNone) = false)

include asks something

theorem fill_of_some :
    reader.fill =
      { reader with
        stream := reader.stream.takeLine.rest
        exhausted := (lineCause? reader.stream.takeLine).isSome
        unread := (Utf8.decode reader.stream.takeLine.bytes).text
        handedOut := 0
        line := reader.line + 1
        pending := (lineCause? reader.stream.takeLine).map
          (.reading ⟨reader.line + 1,
            .ofNatClamp ((Utf8.decode reader.stream.takeLine.bytes).text.length + 1)⟩)
        overflowed := reader.overflowed || (increment? reader.line).isNone } := by
  simp only [fill, asks, something, Bool.false_eq_true, if_false, lineCause?]

/-- A line that was taken has a character or a fault to hand out. -/
theorem handOut?_fill_ne_none : reader.fill.handOut? ≠ none := by
  rw [fill_of_some asks something, handOut?]
  split
  · exact nofun
  · exact nofun
  · rename_i unread pending
    obtain ⟨failure, whole⟩ := encode_of_lineCause?_eq_none (Option.map_eq_none_iff.mp pending)
    rw [show (Utf8.decode reader.stream.takeLine.bytes).text = [] from unread] at whole
    rw [failure, ← whole] at something
    cases something

end Filling

/-- A reader between two lines delivers the next line, and then either what
comes after it or what ended it. -/
theorem deliver_between {stream : ByteStream} (line handedOut : Nat) (overflowed : Bool)
    (something : (stream.takeLine.bytes.isEmpty && stream.takeLine.failure.isNone) = false)
    (oneLine : '\n' ∉ (Utf8.decode stream.takeLine.bytes).text.dropLast) :
    Source.deliver (between stream line handedOut overflowed) =
      .after (locate ⟨line + 1, 1⟩ (Utf8.decode stream.takeLine.bytes).text)
        (match lineCause? stream.takeLine with
        | none => Source.deliver (between stream.takeLine.rest (line + 1)
            (Utf8.decode stream.takeLine.bytes).text.length
            (overflowed || (increment? (.ofNat line)).isNone))
        | some cause => ⟨[], some (.reading ⟨.ofNat (line + 1),
            .ofNatClamp ((Utf8.decode stream.takeLine.bytes).text.length + 1)⟩ cause)⟩) := by
  have number : (between stream line handedOut overflowed).line + 1 = .ofNat (line + 1) :=
    (UInt32.ofNat_add line 1).symm
  rw [deliver_fill rfl (handOut?_fill_ne_none rfl something), fill_of_some rfl something, number,
    deliver_unread ⟨line + 1, 1⟩ oneLine rfl rfl]
  congr 1
  dsimp only [between]
  cases lineCause? stream.takeLine with
  | none => rw [Nat.zero_add]; rfl
  | some cause => exact Source.deliver_of_failed rfl

/-- A reader over a stream that is at its end has ended. -/
theorem deliver_between_of_ended {stream : ByteStream} (line handedOut : Nat) (overflowed : Bool)
    (empty : stream.readable = []) (failure : stream.failure? = none) :
    Source.deliver (between stream line handedOut overflowed) = ⟨[], none⟩ := by
  have absent : lineFeed ∉ stream.readable := empty ▸ List.not_mem_nil
  obtain ⟨bytes, failed, _⟩ := ByteStream.takeLine_of_not_mem absent
  rw [empty] at bytes
  rw [failure] at failed
  have filled : (between stream line handedOut overflowed).fill =
      { between stream line handedOut overflowed with
        stream := stream.takeLine.rest, exhausted := true } := by
    simp [fill, between, bytes, failed]
  have answer : Source.read (between stream line handedOut overflowed) =
      (.ended, { between stream line handedOut overflowed with
        stream := stream.takeLine.rest, exhausted := true }) := by
    show read _ = _
    simp only [read, filled]
    rfl
  exact Source.deliver_of_ended answer

/-- A reader whose next line is its last delivers it with the cause that ends
it. -/
theorem deliver_between_of_some {stream : ByteStream} (line handedOut : Nat) (overflowed : Bool)
    {cause : Failure}
    (ends : lineCause? stream.takeLine = some cause)
    (absent : '\n' ∉ (Utf8.decode stream.takeLine.bytes).text) :
    Source.deliver (between stream line handedOut overflowed) =
      ⟨locate ⟨line + 1, 1⟩ (Utf8.decode stream.takeLine.bytes).text,
        some (.reading ((Place.mk (line + 1) 1).after
          (Utf8.decode stream.takeLine.bytes).text).position cause)⟩ := by
  have something : (stream.takeLine.bytes.isEmpty && stream.takeLine.failure.isNone) = false := by
    refine Bool.eq_false_iff.mpr fun nothing => ?_
    rw [Bool.and_eq_true, List.isEmpty_iff, Option.isNone_iff_eq_none] at nothing
    simp [lineCause?, nothing.1, nothing.2] at ends
  rw [deliver_between _ _ _ something fun member => absent (List.dropLast_subset _ member),
    ends, Place.after_of_not_mem absent]
  simp only [Delivery.after, List.append_nil, Place.position, Nat.add_comm]

/-- A well-formed line moves on to the next one. -/
theorem after_decode_line {first : List UInt8} (absent : lineFeed ∉ first)
    (clean : (Utf8.decode (first ++ [lineFeed])).clean = true) (line : Nat) :
    '\n' ∉ (Utf8.decode (first ++ [lineFeed])).text.dropLast ∧
      (Place.mk line 1).after (Utf8.decode (first ++ [lineFeed])).text = ⟨line + 1, 1⟩ := by
  obtain ⟨before, text, encoded⟩ := Utf8.exists_decode_line clean
  have oneLine : '\n' ∉ before := fun member =>
    absent (encoded ▸ Utf8.lineFeed_mem_encode.mpr member)
  rw [text, List.dropLast_concat, Place.after_append, Place.after_of_not_mem oneLine]
  exact ⟨oneLine, rfl⟩

/-- A reader whose stream has no line feed left delivers its last line. -/
theorem deliver_between_of_not_mem {stream : ByteStream} (feeds : lineFeed ∉ stream.readable)
    (line handedOut : Nat) (overflowed : Bool) :
    Source.deliver (between stream line handedOut overflowed) =
      ⟨locate ⟨line + 1, 1⟩ (Utf8.decode stream.readable).text,
        stream.cause?.map (.reading
          ((Place.mk (line + 1) 1).after (Utf8.decode stream.readable).text).position)⟩ := by
  obtain ⟨bytes, failure, rest⟩ := ByteStream.takeLine_of_not_mem feeds
  obtain ⟨_, oneLine, _⟩ := ByteStream.malformation?_of_not_mem feeds
  have cause : lineCause? stream.takeLine = stream.cause? := by
    rw [lineCause?, bytes, failure, ByteStream.cause?_of_not_mem feeds]
  cases ends : stream.cause? with
  | some cause' =>
    rw [deliver_between_of_some _ _ _ (cause.trans ends) (by rwa [bytes]), bytes]
    rfl
  | none =>
    have failed := failure.symm.trans (encode_of_lineCause?_eq_none (cause.trans ends)).1
    by_cases empty : stream.readable = []
    · rw [deliver_between_of_ended _ _ _ empty failed, empty, Utf8.decode_nil]
      rfl
    · have oneLine' : '\n' ∉ (Utf8.decode stream.readable).text.dropLast := fun member =>
        oneLine (List.dropLast_subset _ member)
      rw [deliver_between _ _ _ (by simp [bytes, empty]) (by rwa [bytes]), cause, ends,
        rest failed, bytes]
      dsimp only
      rw [deliver_between_of_ended _ _ _ rfl rfl, Delivery.after, List.append_nil,
        Option.map_none]

/-- **Between two lines, a reader has to deliver the longest well-formed
beginning of the bytes it can still read, and then the cause that ends the
stream, at the place of the first character missing.** -/
theorem deliver_between_eq (stream : ByteStream) (line handedOut : Nat) (overflowed : Bool) :
    Source.deliver (between stream line handedOut overflowed) =
      ⟨locate ⟨line + 1, 1⟩ (Utf8.decode stream.readable).text,
        stream.cause?.map (.reading
          ((Place.mk (line + 1) 1).after (Utf8.decode stream.readable).text).position)⟩ := by
  by_cases feeds : lineFeed ∈ stream.readable
  · obtain ⟨first, more, whole, absent⟩ := List.eq_append_cons_of_mem feeds
    obtain ⟨bytes, failure, rfl, failure'⟩ := ByteStream.takeLine_of_mem whole absent
    have cause : lineCause? stream.takeLine =
        (Utf8.decode (first ++ [lineFeed])).malformation.map Failure.ofMalformation := by
      rw [lineCause?, bytes, failure]
      rfl
    cases clean : (Utf8.decode (first ++ [lineFeed])).clean with
    | true =>
      obtain ⟨oneLine, next⟩ := after_decode_line absent clean (line + 1)
      have goesOn : lineCause? stream.takeLine = none := by
        rw [cause, Option.isNone_iff_eq_none.mp clean, Option.map_none]
      have fewer : stream.takeLine.rest.readable.length < stream.readable.length := by
        rw [whole, List.length_append, List.length_cons]
        omega
      have text : (Utf8.decode stream.readable).text =
          (Utf8.decode (first ++ [lineFeed])).text ++
            (Utf8.decode stream.takeLine.rest.readable).text := by
        rw [whole, List.append_cons, (Utf8.decode_append_of_clean clean _).1]
      have later := deliver_between_eq stream.takeLine.rest (line + 1)
        (Utf8.decode (first ++ [lineFeed])).text.length
        (overflowed || (increment? (.ofNat line)).isNone)
      rw [deliver_between _ _ _ (by simp [bytes]) (by rwa [bytes]), goesOn, bytes]
      dsimp only
      rw [later, ByteStream.cause?_of_clean whole failure' clean, text, locate_append,
        Place.after_append, next]
      rfl
    | false =>
      obtain ⟨_, oneLine, _⟩ :=
        ByteStream.malformation?_of_broken stream.takeLine.rest.readable absent clean
      obtain ⟨malformation, broken⟩ := Option.isSome_iff_exists.mp
        (Option.isNone_eq_false_iff.mp clean)
      have text : (Utf8.decode stream.readable).text =
          (Utf8.decode (first ++ [lineFeed])).text := by
        rw [whole, (Utf8.decode_append_of_broken clean _).1]
      rw [broken] at cause
      rw [deliver_between_of_some _ _ _ cause (by rwa [bytes]),
        ByteStream.cause?_of_broken whole absent clean, bytes, broken, text]
      rfl
  · exact deliver_between_of_not_mem feeds line handedOut overflowed
termination_by stream.readable.length

/-- **A reader delivers the longest well-formed beginning of the readable bytes,
and then the cause that ends the stream.** -/
theorem deliver_ofStream (stream : ByteStream) :
    Source.deliver (ofStream stream) =
      ⟨locate .start (Utf8.decode stream.readable).text,
        stream.cause?.map (.reading
          (Place.start.after (Utf8.decode stream.readable).text).position)⟩ :=
  deliver_between_eq stream 0 0 false

/-- A reader of a text delivers the text and just ends. -/
theorem deliver_ofText (text : String) :
    Source.deliver (ofText text) = ⟨locate .start text.toList, none⟩ := by
  have readable : ByteStream.readable [.bytes (Utf8.encode text.toList)] =
      Utf8.encode text.toList := List.append_nil _
  have ends : ByteStream.cause? [.bytes (Utf8.encode text.toList)] = none := by
    rw [ByteStream.cause?_eq_none_iff, readable, Utf8.remainder_eq_nil_iff]
    exact ⟨(Utf8.decode_encode _).2, rfl⟩
  rw [ofText, deliver_ofStream, ends, readable, (Utf8.decode_encode _).1]
  rfl

/-! ## After the end -/

/-- A reader that has nothing to hand out and asks for nothing. -/
structure Spent (reader : LineReader) : Prop where
  asksNothing : (reader.closed || reader.exhausted) = true
  unread : reader.unread = []
  pending : reader.pending = none

/-- A spent reader answers that it has ended and stays as it is. -/
theorem Spent.read_eq {reader : LineReader} (spent : Spent reader) :
    reader.read = (.ended, reader) := by
  have nothing : reader.handOut? = none := by
    rw [handOut?, spent.unread, spent.pending]
  have filled : reader.fill = reader := by
    rw [fill, if_pos spent.asksNothing]
  simp only [read, nothing, filled]

/-- A reader with a fault to tell asks for nothing more. -/
def Settled (reader : LineReader) : Prop :=
  reader.pending ≠ none → reader.exhausted = true

theorem settled_fill {reader : LineReader} (settled : Settled reader) : Settled reader.fill := by
  unfold fill
  split
  · exact settled
  · dsimp only
    split
    · exact fun _ => rfl
    · intro waits
      rw [Option.isSome_iff_ne_none]
      exact fun absent => waits (congrArg (Option.map _) absent)

theorem handOut?_eq_none_iff {reader : LineReader} :
    reader.handOut? = none ↔ reader.unread = [] ∧ reader.pending = none := by
  unfold handOut?
  split <;> simp_all

/-- A reader that has nothing to hand out after taking in a line is spent. -/
theorem spent_fill {reader : LineReader} (usedUp : reader.handOut? = none)
    (nothing : reader.fill.handOut? = none) : Spent reader.fill := by
  obtain ⟨unread, pending⟩ := handOut?_eq_none_iff.mp usedUp
  cases asks : reader.closed || reader.exhausted with
  | true =>
    rw [fill, if_pos asks]
    exact ⟨asks, unread, pending⟩
  | false =>
    by_cases something : (reader.stream.takeLine.bytes.isEmpty &&
        reader.stream.takeLine.failure.isNone) = true
    · simp only [fill, asks, something, Bool.false_eq_true, if_false, if_true]
      exact ⟨Bool.or_true _, unread, pending⟩
    · exact absurd nothing (handOut?_fill_ne_none asks (Bool.eq_false_iff.mpr something))

theorem settled_of_handOut? {reader next : LineReader} {reading : Reading}
    (settled : Settled reader) (given : reader.handOut? = some (reading, next)) :
    Settled next ∧ ((∀ char, reading ≠ .char char) → Spent next) := by
  unfold handOut? at given
  split at given
  · cases given
    exact ⟨settled, fun other => absurd rfl (other _)⟩
  · rename_i fault unread pending
    cases given
    exact ⟨fun waits => absurd rfl waits, fun _ =>
      ⟨by simp [settled (by simp [pending])], unread, rfl⟩⟩
  · cases given

/-- **A read that answers no character leaves a spent reader.** -/
theorem settled_read {reader : LineReader} (settled : Settled reader) :
    Settled reader.read.2 ∧ ((∀ char, reader.read.1 ≠ .char char) → Spent reader.read.2) := by
  unfold read
  split
  · rename_i given
    exact settled_of_handOut? settled given
  · rename_i nothing
    dsimp only
    split
    · rename_i given
      exact settled_of_handOut? (settled_fill settled) given
    · rename_i still
      exact ⟨settled_fill settled, fun _ => spent_fill nothing still⟩

/-! ## Reading on and on -/

theorem settled_after (stream : ByteStream) (count : Nat) :
    Settled (Source.after (ofStream stream) count) := by
  induction count with
  | zero => exact fun waits => absurd rfl waits
  | succ count ih =>
    rw [Source.after_succ]
    exact (settled_read ih).1

/-- Past the characters and the answer after them, a reader is spent. -/
theorem spent_after {stream : ByteStream} {count : Nat}
    (past : (Utf8.decode stream.readable).text.length < count) :
    Spent (Source.after (ofStream stream) count) := by
  induction count with
  | zero => exact absurd past (Nat.not_lt_zero _)
  | succ count ih =>
    rw [Source.after_succ]
    rcases Nat.lt_or_eq_of_le (Nat.le_of_lt_succ past) with earlier | same
    · show Spent (read _).2
      rw [(ih earlier).read_eq]
      exact ih earlier
    · refine (settled_read (settled_after stream count)).2 fun char answer => ?_
      have ending := Source.read_after_length (ofStream stream)
      rw [deliver_ofStream, length_locate, same] at ending
      exact Delivery.ending_ne_char _ char (ending.symm.trans answer)

/-- The reads of a line reader, one after the other. -/
theorem read_after_ofStream {stream : ByteStream} {before later : List Char} {char : Char}
    (whole : (Utf8.decode stream.readable).text = before ++ char :: later) :
    (Source.read (Source.after (ofStream stream) before.length)).1 = .char char ∧
      Source.position (Source.after (ofStream stream) (before.length + 1)) =
        (Place.start.after before).position := by
  have delivered : (Source.deliver (ofStream stream)).characters[before.length]? =
      some ⟨char, (Place.start.after before).position⟩ := by
    rw [deliver_ofStream, whole, locate_append]
    simp [locate]
  exact Source.read_after_of_lt delivered

/-- What a line reader answers after the last character. -/
theorem read_after_length_ofStream (stream : ByteStream) :
    (Source.read (Source.after (ofStream stream) (Utf8.decode stream.readable).text.length)).1 =
      match stream.cause? with
      | none => .ended
      | some cause => .failed
          (.reading (Place.start.after (Utf8.decode stream.readable).text).position cause) := by
  have ending := Source.read_after_length (ofStream stream)
  rw [deliver_ofStream, length_locate] at ending
  rw [ending, Delivery.ending]
  cases stream.cause? <;> rfl

/-- **A reader reads the longest well-formed beginning of the bytes before the
first failure, however the stream is cut.** Each of its characters is read in
turn, on the line counted by the line feeds before it and in the column counted
by the characters since the last of them. The next read says how the text ended:
it ended if all bytes were read and none failed; else the read fails once, at
the place that the next character would have, with what is wrong with the line
if that was completed or if the stream did not fail, and with the failure
otherwise. After that there is nothing to read, whatever the stream still has. -/
theorem read_ofStream {stream : ByteStream} {text : List Char}
    (beginning : Utf8.LongestBeginning text stream.readable)
    (fewLines : (lines text).length < 2 ^ 32 - 1)
    (shortLines : ∀ line ∈ splitOn '\n' text, line.length < 2 ^ 32 - 1) :
    let reader := Source.after (ofStream stream)
    let rest := stream.readable.drop (Utf8.encode text).length
    (∀ before char later, text = before ++ char :: later →
      (Source.read (reader before.length)).1 = .char char ∧
        (Source.position (reader (before.length + 1))).line.toNat = 1 + before.count '\n' ∧
        (Source.position (reader (before.length + 1))).column.toNat =
          1 + (openLine before).length) ∧
    (rest = [] ∧ stream.failure? = none → (Source.read (reader text.length)).1 = .ended) ∧
    (¬(rest = [] ∧ stream.failure? = none) → ∃ position cause,
      (Source.read (reader text.length)).1 = .failed (.reading position cause) ∧
        position.line.toNat = 1 + text.count '\n' ∧
        position.column.toNat = 1 + (openLine text).length ∧
        (stream.failure? = none ∨ lineFeed ∈ rest → ∃ malformation,
          ByteStream.malformation? stream.readable = some malformation ∧
            cause = .ofMalformation malformation) ∧
        (lineFeed ∉ rest → ∀ failure, stream.failure? = some failure → cause = failure)) ∧
    ∀ count, text.length < count → (Source.read (reader count)).1 = .ended := by
  obtain rfl := beginning.eq_decode
  intro reader rest
  have left : Utf8.remainder stream.readable = rest := rfl
  obtain ⟨lineFits, columnFits⟩ := place_after_fits fewLines shortLines
  refine ⟨fun before char later whole => ?_, fun clean => ?_, fun broken => ?_,
    fun count past => ?_⟩
  · obtain ⟨answer, position⟩ := read_after_ofStream whole
    obtain ⟨lineFits, columnFits, _⟩ := place_fits (by omega) shortLines whole
    rw [position, Place.toNat_line_position lineFits, Place.toNat_column_position columnFits,
      Place.line_after, Place.column_after]
    exact ⟨answer, rfl, rfl⟩
  · rw [read_after_length_ofStream, ByteStream.cause?_eq_none_iff.mpr clean]
  · obtain ⟨cause, ends⟩ := Option.ne_none_iff_exists'.mp
      fun absent => broken (ByteStream.cause?_eq_none_iff.mp absent)
    refine ⟨(Place.start.after (Utf8.decode stream.readable).text).position, cause, ?_, ?_, ?_,
      fun completed => ?_, fun absent failure failed => ?_⟩
    · rw [read_after_length_ofStream, ends]
    · rw [Place.toNat_line_position lineFits, Place.line_after]
      rfl
    · rw [Place.toNat_column_position columnFits, Place.column_after]
    · rw [ByteStream.cause?_of_completed completed, Option.map_eq_some_iff] at ends
      obtain ⟨malformation, found, same⟩ := ends
      exact ⟨malformation, found, same.symm⟩
    · rw [ByteStream.cause?, if_neg (left ▸ absent), failed] at ends
      exact (Option.some.inj ends).symm
  · show (read _).1 = _
    rw [(spent_after past).read_eq]

/-- A character cut by an interruption is read, and a broken line that was
completed comes before the failure after it. -/
theorem read_ofStream_interrupted :
    let stream : ByteStream := [.bytes [0xC3], .interrupted, .bytes [0xA9, 0x0A, 0x61],
      .bytes [0xFF, 0x0A], .failure .directoryRead, .bytes [0x62]]
    let reader := Source.after (ofStream stream)
    (Source.read (reader 2)).1 = .char 'a' ∧
      (Source.position (reader 3)).line.toNat = 2 ∧ (Source.position (reader 3)).column.toNat = 1 ∧
      (∃ position malformation, (Source.read (reader 3)).1 =
          .failed (.reading position (.ofMalformation malformation)) ∧
        position.line.toNat = 2 ∧ position.column.toNat = 2) ∧
      ∀ count, 3 < count → (Source.read (reader count)).1 = .ended := by
  intro stream reader
  have beginning : Utf8.LongestBeginning ['é', '\n', 'a'] stream.readable := by
    have text : (Utf8.decode stream.readable).text = ['é', '\n', 'a'] := by decide +kernel
    exact text ▸ Utf8.longestBeginning_decode _
  obtain ⟨characters, _, broken, later⟩ := read_ofStream beginning (by decide) (by decide)
  obtain ⟨answer, line, column⟩ := characters ['é', '\n'] 'a' [] rfl
  obtain ⟨position, cause, failed, line', column', completed, _⟩ := broken (by decide +kernel)
  obtain ⟨malformation, _, rfl⟩ := completed (.inr (by decide +kernel))
  exact ⟨answer, line, column, ⟨position, malformation, failed, line', column'⟩, later⟩

end LineReader

end Lexis
