import Lexis.Lex
import Lexis.Proofs.Sharing

/-!
# The log of a session

A session is pulled some number of times, and its log is read afterwards. The log is a
trace of what the calls answered (`Session.log_told`): an entry for each token that does
not mark the end, in the order in which they were handed out, and then, if the session is
over, an entry for the diagnostic that stopped it and one for its termination. Skipped
text, the token that marks the end and calls to a session that is over leave no entry.

One call tells of a token and leaves the session open, or it tells how the session ended,
or it finds the session over and tells nothing (`Session.next_events`). What is said about
runs follows by induction on the number of calls.
-/

namespace Lexis

set_option autoImplicit false

/-! ## Entries -/

/-- An entry of a log. -/
structure LogEntry where
  level : Level
  message : String
  fields : List (String × FieldValue)
  deriving DecidableEq

/-- An event as it stands in a log. -/
def Event.entry (event : Event) : LogEntry :=
  ⟨event.level, event.message, event.fields⟩

/-- The entry for a token that was handed out. -/
def Token.logEntry (token : Token) : LogEntry :=
  ⟨.trace, "token",
    [("kind", .text token.kind.name), ("text", .text token.text), ("line", .number token.line),
      ("left", .number token.left), ("right", .number token.right)]⟩

/-- The entry for the end of a session. -/
def Termination.logEntry (reason : Termination) : LogEntry :=
  ⟨.debug, "lexing session terminated", [("reason", .text reason.name)]⟩

/-- The last entries of a log, where a session has a termination and diagnostics: none as
long as it is open. -/
inductive Closing : Option Termination → List Diagnostic → List LogEntry → Prop
  | stillOpen : Closing none [] []
  | exhausted : Closing (some .exhausted) [] [Termination.exhausted.logEntry]
  | sourceFault {text : String} {line column : UInt32} :
      Closing (some .sourceFault) [⟨.sourceFault, text, ⟨line, column⟩⟩]
        [⟨.warn, "source fault ended lexing",
            [("fault", .text text), ("line", .number line), ("column", .number column)]⟩,
          Termination.sourceFault.logEntry]
  | illegalCharacter {text : String} {line column : UInt32} :
      Closing (some .illegalCharacter) [⟨.illegalCharacter, text, ⟨line, column⟩⟩]
        [⟨.error, "lexical error",
            [("kind", .text "illegal character"), ("text", .text text), ("line", .number line),
              ("column", .number column)]⟩,
          Termination.illegalCharacter.logEntry]
  | illegalLiteral {text : String} {line column : UInt32} :
      Closing (some .illegalLiteral) [⟨.illegalLiteral, text, ⟨line, column⟩⟩]
        [⟨.error, "lexical error",
            [("kind", .text "illegal literal"), ("text", .text text), ("line", .number line),
              ("column", .number column)]⟩,
          Termination.illegalLiteral.logEntry]

/-- What is told of an ending closes the log. -/
theorem Ending.closing (ending : Ending) :
    Closing (some ending.termination) ending.diagnostics (ending.events.map Event.entry) := by
  cases ending with
  | exhausted => exact .exhausted
  | stopped diagnostic =>
    obtain ⟨kind, text, line, column⟩ := diagnostic
    cases kind with
    | illegalCharacter => exact .illegalCharacter
    | illegalLiteral => exact .illegalLiteral
    | sourceFault => exact .sourceFault

namespace Session

variable {σ : Type}

/-- What was told of the end of a session, if it is over. -/
def closingEvents (session : Session σ) : List Event :=
  (session.ending.map Ending.events).getD []

theorem closing (session : Session σ) :
    Closing session.termination? session.diagnostics
      (session.closingEvents.map Event.entry) := by
  obtain ⟨input, policy, ending⟩ := session
  cases ending with
  | none => exact .stillOpen
  | some ending => exact ending.closing

variable [Source σ]

/-! ## One call -/

/-- **What one call tells.** A call to an open session tells of a token that does not mark
the end, and the session stays open; or its token marks the end, and it tells how the
session ended. -/
theorem next_events {session : Session σ} {table : SymbolTable} (spelled : table.Spelled)
    (running : session.ending = none) :
    let pulled := session.next table
    (pulled.token.isEnd = false ∧ pulled.session.ending = none ∧
        pulled.events = [.token pulled.token]) ∨
      (pulled.token.isEnd = true ∧ pulled.session.ending.isSome = true ∧
        pulled.events = pulled.session.closingEvents) := by
  intro pulled
  rcases found : session.input.scan session.policy with ⟨⟨start, text, kind⟩ | ending, input⟩
  · have answer : pulled = _ := next_of_lexeme running found table
    have goesOn := SymbolTable.isEnd_issue spelled (spelled_of_scan found)
    rw [answer]
    exact .inl ⟨goesOn, running, rfl⟩
  · have answer : pulled = _ := next_of_over running found table
    rw [answer]
    exact .inr ⟨isEnd_endToken _ _, rfl, rfl⟩

/-! ## Any number of calls -/

/-- What is told while so many tokens are pulled from a session with a table. -/
def told (session : Session σ) (table : SymbolTable) : Nat → List Event
  | 0 => []
  | count + 1 =>
      let pulled := session.next table
      pulled.events ++ pulled.session.told pulled.table count

/-- Calls to a session that is over answer tokens that mark the end. They tell nothing and
leave the session as it is. -/
theorem pulls_of_ended {session : Session σ} (ended : session.ending.isSome = true)
    (table : SymbolTable) (count : Nat) :
    (session.pulls table count).1.filter (!·.isEnd) = [] ∧
      (session.pulls table count).2 = session ∧ session.told table count = [] := by
  obtain ⟨ending, found⟩ := Option.isSome_iff_exists.mp ended
  induction count with
  | zero => exact ⟨rfl, rfl, rfl⟩
  | succ count ih =>
    obtain ⟨tokens, same, nothing⟩ := ih
    rw [pulls, told, next_of_ended found]
    refine ⟨?_, same, nothing⟩
    rw [List.filter_cons_of_neg (by simp [isEnd_endToken])]
    exact tokens

/-- **What the calls to an open session tell** is the tokens that do not mark the end, and
then how the session ended, if it did. -/
theorem told_eq {session : Session σ} {table : SymbolTable} (spelled : table.Spelled)
    (running : session.ending = none) (count : Nat) :
    session.told table count =
      ((session.pulls table count).1.filter (!·.isEnd)).map Event.token ++
        (session.pulls table count).2.closingEvents := by
  induction count generalizing session table with
  | zero =>
    rw [pulls, told, closingEvents, running]
    rfl
  | succ count ih =>
    rw [pulls, told]
    dsimp only
    rcases next_events spelled running with ⟨goesOn, stillOpen, one⟩ | ⟨marks, ended, last⟩
    · rw [one, ih (session.spelled_next spelled) stillOpen,
        List.filter_cons_of_pos (by simp [goesOn])]
      rfl
    · obtain ⟨absent, same, nothing⟩ := pulls_of_ended ended (session.next table).table count
      rw [last, nothing, same, List.filter_cons_of_neg (by simp [marks]), absent]
      exact List.append_nil _

/-- Once a session is over, further calls add nothing to what was told. -/
theorem told_add {session : Session σ} {table : SymbolTable} {count : Nat}
    (finished : (session.pulls table count).2.ending.isSome = true) (more : Nat) :
    session.told table (count + more) = session.told table count := by
  induction count generalizing session table with
  | zero =>
    rw [Nat.zero_add]
    exact (pulls_of_ended finished table more).2.2
  | succ count ih =>
    rw [Nat.succ_add, told, told]
    exact congrArg (_ ++ ·) (ih finished)

/-- **The log of a session is a trace of it.** Pull any number of tokens, from a session at
the start of a source with a table of its own. The log has an entry for each token pulled
that does not mark the end, in order, with its kind, text and place. If the session is
over, there follow an entry for the diagnostic that stopped it, if one did, and at last an
entry with its termination; else nothing follows. Once the session is over, no number of
further calls adds to the log. -/
theorem log_told (source : σ) (policy : Policy) (number count : Nat) :
    let pulled := (new source policy).pulls (.new number) count
    let log := ((new source policy).told (.new number) count).map Event.entry
    (∃ closing, Closing pulled.2.termination? pulled.2.diagnostics closing ∧
        log = (pulled.1.filter (!·.isEnd)).map Token.logEntry ++ closing) ∧
      (pulled.2.termination?.isSome → ∀ more,
        ((new source policy).told (.new number) (count + more)).map Event.entry = log) := by
  intro pulled log
  constructor
  · refine ⟨_, pulled.2.closing, ?_⟩
    have fresh : (new source policy).ending = none := rfl
    have said := told_eq (SymbolTable.spelled_new number) fresh count
    simp only [log, said, List.map_append, List.map_map]
    rfl
  · intro finished more
    have ended : pulled.2.ending.isSome = true := by simpa [termination?] using finished
    exact congrArg (List.map Event.entry) (told_add ended more)

/-- A comment, a literal that stops the session in the second call, and any number of calls
behind that. -/
theorem log_told_illegal_date :
    let session := new (LineReader.ofText "n // t\n 1/2-24 ?") ⟨.split, true⟩
    let log := (session.told (.new 0) 2).map Event.entry
    (session.pulls (.new 0) 2).2.termination?.isSome ∧
      log =
        [⟨.trace, "token",
            [("kind", .text "Identifier"), ("text", .text "n"), ("line", .number 1),
              ("left", .number 1), ("right", .number 1)]⟩,
          ⟨.error, "lexical error",
            [("kind", .text "illegal literal"), ("text", .text "1/2-24"), ("line", .number 2),
              ("column", .number 2)]⟩,
          ⟨.debug, "lexing session terminated", [("reason", .text "IllegalLiteral")]⟩] ∧
      ∀ more, (session.told (.new 0) (2 + more)).map Event.entry = log := by
  intro session log
  have finished : (session.pulls (.new 0) 2).2.termination?.isSome := by decide +kernel
  exact ⟨finished, by decide +kernel, (log_told _ _ 0 2).2 finished⟩

end Session

end Lexis
