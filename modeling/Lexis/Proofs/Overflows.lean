import Lexis.Command.Line
import Lexis.Lex
import Lexis.Proofs.FileRuns
import Lexis.Proofs.Lifecycle
import Lexis.Proofs.Placement
import Lexis.Proofs.Reading

/-!
# Additions that overflow

Two additions may overflow while tokens are pulled, and the program stops in the call in which
one does (`Session.pull`). An overflow is there for good: a source that has overflowed stays so
when it is read or closed, and a session that found no column for the token that marks its end
is over (`Session.overflow?_next`). So it makes no difference whether each of some calls is
checked or the session after all of them (`Session.afterChecked_bind_pull`, `Session.pullAll_eq`,
`Session.dumpChecked_eq`).

A reader counts one line for each line feed that it has read, and one for what stands behind the
last of them, and no column is past the bytes of the line. So no addition overflows over fewer
than `2 ^ 32 - 1` bytes (`LineReader.WithinBytes`), and the program does there what it would do
without the checks: lexing a stream, a text or a file, and running a command line
(`lexWithChecked_ofStream`, `lexChecked_eq`, `lexFileChecked_eq`, `runCommandLineChecked_eq`).
-/

namespace Lexis

set_option autoImplicit false

/-! ## One more -/

/-- One more is one more, where there is such a number. -/
theorem increment?_eq_some_iff {number next : UInt32} :
    increment? number = some next ↔ next.toNat = number.toNat + 1 := by
  have bound := next.toNat_lt
  unfold increment?
  split <;> rename_i below <;> rw [UInt32.lt_iff_toNat_lt] at below
  · have small : number.toNat + 1 < 2 ^ 32 := Nat.succ_lt_succ below
    rw [Option.some.injEq, ← UInt32.toNat_inj, toNat_add_one small, eq_comm]
  · have large : ¬number.toNat < 4294967295 := below
    refine ⟨nofun, fun same => ?_⟩
    omega

/-- There is no number one more than the highest. -/
theorem increment?_eq_none_iff {number : UInt32} :
    increment? number = none ↔ number.toNat + 1 = 2 ^ 32 := by
  have bound := number.toNat_lt
  unfold increment?
  split <;> rename_i below <;> rw [UInt32.lt_iff_toNat_lt] at below
  · have small : number.toNat < 4294967295 := below
    refine ⟨nofun, fun same => ?_⟩
    omega
  · have large : ¬number.toNat < 4294967295 := below
    refine ⟨fun _ => ?_, fun _ => rfl⟩
    omega

theorem increment?_of_lt {number : UInt32} (small : number.toNat + 1 < 2 ^ 32) :
    (increment? number).isNone = false := by
  rw [Option.isNone_eq_false_iff, Option.isSome_iff_ne_none, Ne, increment?_eq_none_iff]
  exact Nat.ne_of_lt small

/-! ## Checks at the end of some calls -/

/-- A dump with one more row in front, and what was told of it. -/
def Dumped.after {σ : Type} (events : List Event) (dumped : Dumped σ) : Dumped σ :=
  { dumped with tokens := dumped.tokens + 1, events := events ++ dumped.events }

/-- What has overflowed stays so. -/
theorem Source.hom_overflowed {σ : Type} [Source σ] :
    Source.Hom (fun source : σ => overflowed source = true) id where
  beyond_read := overflowed_read
  beyond_close before := (overflowed_close _).trans before
  read _ := rfl
  position _ := rfl
  close _ := rfl

namespace Source

variable {σ : Type} [Source σ]

/-- The source after so many reads with checks. -/
def afterChecked (source : σ) : Nat → Except Overflow σ
  | 0 => .ok source
  | count + 1 => (readChecked source).bind fun answer => afterChecked answer.2 count

theorem overflowed_after {source : σ} (before : overflowed source = true) (count : Nat) :
    overflowed (after source count) = true := by
  induction count generalizing source with
  | zero => exact before
  | succ count ih => exact ih (overflowed_read before)

/-- **Checking each of some reads is checking the source after all of them.** -/
theorem afterChecked_eq {source : σ} (counts : overflowed source = false) (count : Nat) :
    afterChecked source count =
      if overflowed (after source count) then .error .line else .ok (after source count) := by
  induction count generalizing source with
  | zero => rw [after, counts]; rfl
  | succ count ih =>
    rw [afterChecked, readChecked, after]
    cases overflows : overflowed (read source).2 with
    | false => exact ih overflows
    | true => rw [overflowed_after overflows]; rfl

end Source

namespace Session

variable {σ : Type} [Source σ] {session : Session σ} {overflow : Overflow}

theorem overflow?_eq_line_iff :
    session.overflow? = some .line ↔ Source.overflowed session.input.source = true := by
  unfold overflow?
  split
  · simp [*]
  · split <;> simp [*]

/-- A session finds no column for the token that marks its end just where it is over behind the
highest column. -/
theorem overflow?_eq_column_iff :
    session.overflow? = some .column ↔
      Source.overflowed session.input.source = false ∧ session.termination?.isSome ∧
        session.input.last.column.toNat + 1 = 2 ^ 32 := by
  unfold overflow?
  rw [← increment?_eq_none_iff, termination?, Option.isSome_map]
  split
  · simp [*]
  · split <;> simp_all

theorem overflow?_eq_none_iff :
    session.overflow? = none ↔
      Source.overflowed session.input.source = false ∧
        (session.termination?.isSome → session.input.last.column.toNat + 1 < 2 ^ 32) := by
  have bound := session.input.last.column.toNat_lt
  constructor
  · intro none
    have counts : Source.overflowed session.input.source = false := by
      rw [← Bool.not_eq_true, ← overflow?_eq_line_iff, none]
      exact nofun
    refine ⟨counts, fun ended => Nat.lt_of_le_of_ne bound fun highest => ?_⟩
    cases none.symm.trans (overflow?_eq_column_iff.mpr ⟨counts, ended, highest⟩)
  · rintro ⟨counts, below⟩
    cases overflows : session.overflow? with
    | none => rfl
    | some overflow =>
      cases overflow with
      | line => cases counts.symm.trans (overflow?_eq_line_iff.mp overflows)
      | column =>
        obtain ⟨_, ended, highest⟩ := overflow?_eq_column_iff.mp overflows
        exact absurd (below ended) (Nat.not_lt.mpr (Nat.le_of_eq highest.symm))

/-- **An overflow is there for good.** -/
theorem overflow?_next (before : session.overflow? = some overflow) (table : SymbolTable) :
    (session.next table).session.overflow? = some overflow := by
  cases ended : session.ending with
  | some ending => rwa [next_of_ended ended]
  | none =>
    cases overflow with
    | line =>
      have overflowed := overflow?_eq_line_iff.mp before
      exact overflow?_eq_line_iff.mpr (beyond_next Source.hom_overflowed overflowed table)
    | column =>
      have stopped := (overflow?_eq_column_iff.mp before).2.1
      rw [termination?, ended] at stopped
      cases stopped

theorem overflow?_after (before : session.overflow? = some overflow)
    (tables : List SymbolTable) : (session.after tables).overflow? = some overflow := by
  induction tables generalizing session with
  | nil => exact before
  | cons table later ih => exact ih (overflow?_next before table)

theorem checked_of_none {α : Type} (none : session.overflow? = none) (result : α) :
    session.checked result = .ok result := by
  rw [checked, none]

theorem checked_of_some {α : Type} (overflows : session.overflow? = some overflow) (result : α) :
    session.checked result = .error overflow := by
  rw [checked, overflows]

theorem checked_eq_ok_iff {α : Type} {result : α} :
    session.checked result = .ok result ↔ session.overflow? = none := by
  unfold checked
  split <;> simp [*]

theorem checked_eq_error_iff {α : Type} {result : α} :
    session.checked result = .error overflow ↔ session.overflow? = some overflow := by
  unfold checked
  split <;> simp [*]

/-- A check followed by what is checked again later is the later check, if that finds what the
first one finds. -/
theorem checked_bind {α β : Type} {before after : Session σ}
    (stays : ∀ overflow, before.overflow? = some overflow → after.overflow? = some overflow)
    {first : α} {next : α → Except Overflow β} {last : β}
    (goesOn : before.overflow? = none → next first = after.checked last) :
    (before.checked first).bind next = after.checked last := by
  cases overflows : before.overflow? with
  | none =>
    rw [checked_of_none overflows]
    exact goesOn overflows
  | some overflow =>
    rw [checked_of_some overflows, checked_of_some (stays overflow overflows)]
    rfl

theorem map_checked {α β : Type} (result : α) (change : α → β) :
    (session.checked result).map change = session.checked (change result) := by
  unfold checked
  split <;> rfl

/-- Calls for tokens, each with a table and with checks. -/
def afterChecked (session : Session σ) (tables : List SymbolTable) :
    Except Overflow (Session σ) :=
  tables.foldlM (fun session table => (session.pull table).map Pulled.session) session

/-- **Checking each of some calls and one more is checking the last one.** -/
theorem afterChecked_bind_pull (session : Session σ) (tables : List SymbolTable)
    (table : SymbolTable) :
    (session.afterChecked tables).bind (·.pull table) = (session.after tables).pull table := by
  induction tables generalizing session with
  | nil => rfl
  | cons first later ih =>
    show (((session.pull first).map Pulled.session).bind (·.afterChecked later)).bind _ =
      ((session.next first).session.after later).pull table
    cases overflows : (session.next first).session.overflow? with
    | none =>
      rw [pull, checked_of_none overflows]
      exact ih _
    | some overflow =>
      rw [pull, pull, checked_of_some overflows,
        checked_of_some (overflow?_next (overflow?_after overflows later) table)]
      rfl

/-- Draining a session is calling it for tokens. -/
theorem exists_drain_eq_after (session : Session σ) (table : SymbolTable) :
    ∃ tables, (session.drain table).session = session.after (table :: tables) := by
  cases ended : (session.next table).token.isEnd with
  | true => exact ⟨[], by rw [drain_of_isEnd ended]; rfl⟩
  | false =>
    have smaller := size_lt_of_next ended
    obtain ⟨tables, rest⟩ :=
      exists_drain_eq_after (session.next table).session (session.next table).table
    refine ⟨(session.next table).table :: tables, ?_⟩
    rw [drain_of_goesOn ended]
    exact rest
termination_by session.input.size
decreasing_by exact smaller

/-- **Draining with checks checks each call.** -/
theorem pullAll_eq (session : Session σ) (table : SymbolTable) :
    session.pullAll table =
      (session.pull table).bind fun pulled =>
        if pulled.token.isEnd then
          .ok ⟨[], pulled.token, pulled.session, pulled.table, pulled.events⟩
        else
          (pulled.session.pullAll pulled.table).map
            (Drained.after [pulled.token] pulled.events) := by
  rw [pullAll, pull]
  cases ended : (session.next table).token.isEnd with
  | true =>
    rw [drain_of_isEnd ended]
    refine (checked_bind (fun _ before => before) fun none => ?_).symm
    rw [if_pos ended, checked_of_none none]
  | false =>
    obtain ⟨tables, left⟩ :=
      exists_drain_eq_after (session.next table).session (session.next table).table
    rw [drain_of_goesOn ended]
    refine (checked_bind (fun _ before => ?_) fun none => ?_).symm
    · show Session.overflow? (Drained.session _) = _
      exact left ▸ overflow?_after before _
    · rw [if_neg (by simp [ended]), pullAll, map_checked]
      rfl

/-- Dumping a session is calling it for tokens. -/
theorem exists_dumpOnto_eq_after (tokens : Nat) (events : List Event) (session : Session σ)
    (table : SymbolTable) (sink : Sink) :
    ∃ tables, (dumpOnto tokens events session table sink).session =
      session.after (table :: tables) := by
  cases ended : (session.next table).token.isEnd with
  | true => exact ⟨[], by rw [dumpOnto_of_isEnd ended]; rfl⟩
  | false =>
    have smaller := size_lt_of_next ended
    cases wrote : (sink.write (row (session.next table).token)).2 with
    | some failure => exact ⟨[], by rw [dumpOnto_of_failed ended wrote]; rfl⟩
    | none =>
      obtain ⟨tables, rest⟩ := exists_dumpOnto_eq_after (tokens + 1)
        ((session.next table).events.reverse ++ events) (session.next table).session
        (session.next table).table (sink.write (row (session.next table).token)).1
      refine ⟨(session.next table).table :: tables, ?_⟩
      rw [dumpOnto_of_written ended wrote]
      exact rest
termination_by session.input.size
decreasing_by exact smaller

/-- What was dumped and told before is counted and stays in front. -/
theorem dumpOnto_add (tokens before : Nat) (events earlier : List Event) (session : Session σ)
    (table : SymbolTable) (sink : Sink) :
    dumpOnto (tokens + before) (events ++ earlier) session table sink =
      let dumped := dumpOnto tokens events session table sink
      { dumped with
        tokens := dumped.tokens + before, events := earlier.reverse ++ dumped.events } := by
  cases ended : (session.next table).token.isEnd with
  | true =>
    rw [dumpOnto_of_isEnd ended, dumpOnto_of_isEnd ended]
    simp
  | false =>
    have smaller := size_lt_of_next ended
    cases wrote : (sink.write (row (session.next table).token)).2 with
    | some failure =>
      rw [dumpOnto_of_failed ended wrote, dumpOnto_of_failed ended wrote]
      simp
    | none =>
      rw [dumpOnto_of_written ended wrote, dumpOnto_of_written ended wrote, ← List.append_assoc,
        Nat.add_right_comm]
      exact dumpOnto_add (tokens + 1) before _ earlier _ _ _
termination_by session.input.size
decreasing_by exact smaller

/-- A row that was written comes before what the session left over dumps. -/
theorem dump_of_written {session : Session σ} {table : SymbolTable} {sink : Sink}
    (goesOn : (session.next table).token.isEnd = false)
    (written : (sink.write (row (session.next table).token)).2 = none) :
    session.dump table sink =
      ((session.next table).session.dump (session.next table).table
        (sink.write (row (session.next table).token)).1).after (session.next table).events := by
  have whole := dumpOnto_add 0 1 [] (session.next table).events.reverse
    (session.next table).session (session.next table).table
    (sink.write (row (session.next table).token)).1
  rw [List.reverse_reverse, List.nil_append] at whole
  rw [dump, dumpOnto_of_written goesOn written, List.append_nil]
  exact whole

/-- **Dumping with checks checks each call,** up to the one before a write that fails. -/
theorem dumpChecked_eq (session : Session σ) (table : SymbolTable) (sink : Sink) :
    session.dumpChecked table sink =
      (session.pull table).bind fun pulled =>
        if pulled.token.isEnd then
          .ok ⟨0, pulled.session, sink, none, pulled.events⟩
        else
          match sink.write (row pulled.token) with
          | (sink, some failure) => .ok ⟨0, pulled.session, sink, some failure, pulled.events⟩
          | (sink, none) =>
              (pulled.session.dumpChecked pulled.table sink).map (Dumped.after pulled.events) := by
  rw [dumpChecked, pull]
  cases ended : (session.next table).token.isEnd with
  | true =>
    rw [dump, dumpOnto_of_isEnd ended]
    refine (checked_bind (fun _ before => before) fun none => ?_).symm
    rw [if_pos ended, checked_of_none none]
    rfl
  | false =>
    have goesOn : ¬(session.next table).token.isEnd = true := by simp [ended]
    rcases wrote : sink.write (row (session.next table).token) with ⟨after, _ | failure⟩
    · obtain ⟨tables, left⟩ := exists_dumpOnto_eq_after 0 [] (session.next table).session
        (session.next table).table after
      rw [dump_of_written ended (congrArg Prod.snd wrote), wrote]
      refine (checked_bind (fun _ before => ?_) fun none => ?_).symm
      · show Session.overflow? (Dumped.session (dumpOnto ..)) = _
        exact left ▸ overflow?_after before _
      · rw [if_neg goesOn, wrote]
        exact map_checked _ _
    · rw [dump, dumpOnto_of_failed ended (congrArg Prod.snd wrote), wrote]
      refine (checked_bind (fun _ before => before) fun none => ?_).symm
      rw [if_neg goesOn, checked_of_none none, wrote]
      rfl

end Session

/-! ## Where nothing overflows -/

namespace LineReader

/-- A reader over so many bytes, or what is left of it. Each line that it has counted took a
byte of the stream, apart from a last one that failed before its first byte. -/
structure WithinBytes (bytes : Nat) (reader : LineReader) : Prop where
  exact : reader.overflowed = false
  lines : reader.line.toNat + (if reader.exhausted then 0 else reader.stream.byteCount + 1) ≤
    bytes + 1
  columns : reader.handedOut + reader.remaining ≤ bytes

variable {bytes : Nat} {reader : LineReader}

theorem withinBytes_ofStream (stream : ByteStream) :
    (ofStream stream).WithinBytes stream.byteCount where
  exact := rfl
  lines := by simp [ofStream]
  columns := by simp [ofStream, remaining]

theorem WithinBytes.close (within : reader.WithinBytes bytes) : reader.close.WithinBytes bytes where
  exact := within.exact
  lines := by
    have lines := within.lines
    simp only [LineReader.close, ByteStream.byteCount]
    split at lines <;> simp_all
    omega
  columns := Nat.zero_le _

theorem WithinBytes.handOut? (within : reader.WithinBytes bytes) {reading : Reading}
    {next : LineReader} (answer : reader.handOut? = some (reading, next)) :
    next.WithinBytes bytes := by
  have columns := within.columns
  unfold LineReader.handOut? at answer
  split at answer
  · rename_i later _ unread
    obtain ⟨_, rfl⟩ := Prod.mk.inj (Option.some.inj answer)
    refine ⟨within.exact, within.lines, ?_⟩
    simp only [remaining, unread, List.length_cons] at columns ⊢
    omega
  · obtain ⟨_, rfl⟩ := Prod.mk.inj (Option.some.inj answer)
    exact ⟨within.exact, within.lines, columns⟩
  · cases answer

/-- **Taking a line stays within the bytes,** if there are less than lines can be counted. -/
theorem WithinBytes.fill (within : reader.WithinBytes bytes) (few : bytes + 1 < 2 ^ 32)
    (usedUp : reader.unread = []) : reader.fill.WithinBytes bytes := by
  have fewer := remaining_fill usedUp
  have columns := within.columns
  have lines := within.lines
  have taken := reader.stream.length_takeLine
  cases asks : reader.closed || reader.exhausted with
  | true => simpa only [LineReader.fill, asks, if_true] using within
  | false =>
    have goesOn : reader.exhausted = false := (Bool.or_eq_false_iff.mp asks).2
    rw [goesOn, if_neg Bool.false_ne_true] at lines
    cases something : reader.stream.takeLine.bytes.isEmpty &&
        reader.stream.takeLine.failure.isNone with
    | true =>
      have filled : reader.fill =
          { reader with stream := reader.stream.takeLine.rest, exhausted := true } := by
        simp only [LineReader.fill, asks, something, Bool.false_eq_true, if_false, if_true]
      rw [filled] at fewer ⊢
      refine ⟨within.exact, ?_, Nat.le_trans (Nat.add_le_add_left fewer _) columns⟩
      show reader.line.toNat + 0 ≤ _
      omega
    | false =>
      have small : reader.line.toNat + 1 < 2 ^ 32 := by omega
      rw [fill_of_some asks something] at fewer ⊢
      refine ⟨?_, ?_, ?_⟩
      · show (reader.overflowed || (increment? reader.line).isNone) = false
        rw [within.exact, increment?_of_lt small, Bool.or_false]
      · show (reader.line + 1).toNat + _ ≤ _
        rw [toNat_add_one small]
        cases ends : lineCause? reader.stream.takeLine with
        | some cause =>
          rw [Option.isSome_some, if_pos rfl]
          omega
        | none =>
          -- A line that nothing ended early has a byte.
          obtain ⟨failure, _⟩ := encode_of_lineCause?_eq_none ends
          rw [failure, Option.isNone_none, Bool.and_true, List.isEmpty_eq_false_iff] at something
          have byte := List.length_pos_iff.mpr something
          rw [Option.isSome_none, if_neg Bool.false_ne_true]
          dsimp only
          omega
      · show 0 + _ ≤ _
        rw [Nat.zero_add]
        exact Nat.le_trans fewer (Nat.le_trans (Nat.le_add_left _ _) columns)

theorem WithinBytes.read (within : reader.WithinBytes bytes) (few : bytes + 1 < 2 ^ 32) :
    reader.read.2.WithinBytes bytes := by
  unfold LineReader.read
  split
  · rename_i given
    exact within.handOut? given
  · rename_i nothing
    have filled := within.fill few (unread_of_handOut? nothing)
    dsimp only
    split
    · rename_i given
      exact filled.handOut? given
    · exact filled

end LineReader

namespace Lookahead

/-- An input over a reader within so many bytes, and with its last column within them too. -/
structure WithinBytes (bytes : Nat) (input : Lookahead LineReader) : Prop where
  source : input.source.WithinBytes bytes
  column : input.last.column.toNat ≤ bytes

variable {bytes : Nat} {input : Lookahead LineReader}

theorem withinBytes_ofSource (stream : ByteStream) :
    (ofSource (LineReader.ofStream stream)).WithinBytes stream.byteCount :=
  ⟨LineReader.withinBytes_ofStream stream, Nat.zero_le _⟩

theorem WithinBytes.close (within : input.WithinBytes bytes) : input.close.WithinBytes bytes := by
  refine ⟨?_, within.column⟩
  unfold Lookahead.close
  cases input.closed with
  | true => exact within.source
  | false => exact within.source.close

theorem invariant_withinBytes (few : bytes + 1 < 2 ^ 32) :
    Invariant (WithinBytes bytes : Lookahead LineReader → Prop) where
  draw := by
    intro input within
    cases drained : input.drained with
    | true => rwa [draw_of_drained drained]
    | false =>
      have after := within.source.read few
      rcases read : Source.read input.source with ⟨char | _ | fault, next⟩
      · have next : next.WithinBytes bytes := by
          rwa [show input.source.read = _ from read] at after
        rw [draw_of_char drained read]
        refine ⟨next, ?_⟩
        have columns := next.columns
        show (UInt32.ofNatClamp _).toNat ≤ bytes
        rw [toNat_ofNatClamp]
        omega
      · rw [show input.source.read = _ from read] at after
        rw [draw_of_ended drained read]
        exact ⟨after, within.column⟩
      · rw [show input.source.read = _ from read] at after
        rw [draw_of_failed drained read]
        exact ⟨after, within.column⟩
  window within _ := ⟨within.source, within.column⟩
  fault within := ⟨within.source, within.column⟩

end Lookahead

namespace Session

variable {stream : ByteStream} (few : stream.byteCount + 1 < 2 ^ 32)

include few

/-- **Nothing overflows over fewer than `2 ^ 32 - 1` bytes.** -/
theorem overflow?_after_ofStream (policy : Policy) (tables : List SymbolTable) :
    ((new (LineReader.ofStream stream) policy).after tables).overflow? = none := by
  have within : ((new (LineReader.ofStream stream) policy).after tables).input.WithinBytes
      stream.byteCount :=
    after_of_invariant (Lookahead.invariant_withinBytes few) Lookahead.WithinBytes.close
      (Lookahead.withinBytes_ofSource stream) tables
  cases overflows : ((new (LineReader.ofStream stream) policy).after tables).overflow? with
  | none => rfl
  | some overflow =>
    cases overflow with
    | line =>
      have exact := within.source.exact
      exact absurd (overflow?_eq_line_iff.mp overflows) (by simp [Source.overflowed, exact])
    | column =>
      have column := within.column
      have highest := (overflow?_eq_column_iff.mp overflows).2.2
      omega

end Session

/-! ### Whole runs -/

section Streams

variable {stream : ByteStream} (few : stream.byteCount + 1 < 2 ^ 32)

include few

/-- **A short stream is lexed with checks as it is without.** -/
theorem lexWithChecked_ofStream (table : SymbolTable) (policy : Policy) :
    lexWithChecked (.ofStream stream : LineReader) table policy =
      .ok (lexWith (.ofStream stream : LineReader) table policy) := by
  obtain ⟨tables, left⟩ := Session.exists_drain_eq_after
    (.new (.ofStream stream : LineReader) policy) table
  rw [lexWithChecked, Session.pullAll, left,
    Session.checked_of_none (Session.overflow?_after_ofStream few policy _)]
  rfl

theorem dumpChecked_ofStream (table : SymbolTable) (policy : Policy) (sink : Sink) :
    (Session.new (.ofStream stream : LineReader) policy).dumpChecked table sink =
      .ok ((Session.new (.ofStream stream : LineReader) policy).dump table sink) := by
  obtain ⟨tables, left⟩ := Session.exists_dumpOnto_eq_after 0 []
    (.new (.ofStream stream : LineReader) policy) table sink
  rw [Session.dumpChecked, Session.dump, left,
    Session.checked_of_none (Session.overflow?_after_ofStream few policy _)]

end Streams

/-- **A short text is lexed with checks as it is without.** -/
theorem lexChecked_eq {text : String} (few : (Utf8.encode text.toList).length + 1 < 2 ^ 32)
    (policy : Policy) : lexChecked text policy = .ok (lex text policy) := by
  have short : ByteStream.byteCount [.bytes (Utf8.encode text.toList)] + 1 < 2 ^ 32 := few
  exact lexWithChecked_ofStream short _ policy

/-- **A short file is lexed with checks as it is without.** A directory is short, and so is what
cannot be opened. -/
theorem lexFileChecked_eq {files : Files} {path : String}
    (few : ∀ content, files path = .ok (.file content) → content.length + 1 < 2 ^ 32)
    (options : Options) (sink : Sink) :
    lexFileChecked files path options sink = .ok (lexFile files path options sink) := by
  rw [lexFileChecked, lexFile]
  cases opened : files.openSource path with
  | error fault => rfl
  | ok source =>
    obtain ⟨entry, found, rfl⟩ := Files.openSource_eq_ok_iff.mp opened
    have short : entry.stream.byteCount + 1 < 2 ^ 32 := by
      cases entry with
      | file content => exact few content found
      | directory => decide
    dsimp only
    rw [dumpChecked_ofStream short]
    rfl

/-- **The program does what it does without checks,** where all files are short. -/
theorem runCommandLineChecked_eq {files : Files}
    (few : ∀ path content, files path = .ok (.file content) → content.length + 1 < 2 ^ 32)
    (arguments : List String) :
    runCommandLineChecked files arguments = .ok (runCommandLine files arguments) := by
  rw [runCommandLineChecked, runCommandLine]
  cases Command.ofArguments arguments with
  | lex arguments =>
    obtain ⟨path, options⟩ := arguments
    dsimp only [Command.runChecked, Command.run]
    rw [lexFileChecked_eq (few path) options .unbounded]
    rfl
  | _ => rfl

end Lexis
