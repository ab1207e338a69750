import Lexis.Event
import Lexis.Scan

/-!
# Lexing sessions

A session pulls tokens out of an input, one at a time, and interns their texts
in a table. It ends at the end of the input, at a fault of the source, or at the
first text that is no token. The call that finds the end closes the input and
hands out the token that marks the end, and so does every later call, which
changes nothing more.

The table is handed in and out with each call, since several sessions may share
one. The kind of a token is the one its table has for the text.

The program gets to the next token in turns, and it closes its input and
registers the empty text as often as it is asked for a token after the end. What
a call yields is defined in one piece here; that both are the same is
`Lexer.afterCalls_bind_call`.

Two additions may overflow in a call, and then the program stops
(`Session.pull`). What the call yields is defined without these checks
(`Session.next`), and the checks look at the session that it leaves behind. So
whatever is said of calls without checks holds of the program until it stops.
-/

namespace Lexis

set_option autoImplicit false

/-- An input that tokens are pulled from. -/
structure Session (σ : Type) where
  input : Lookahead σ
  policy : Policy
  /-- How the session ended, if it has. -/
  ending : Option Ending
  deriving DecidableEq

/-- What pulling a token yields. -/
structure Pulled (σ : Type) where
  token : Token
  session : Session σ
  table : SymbolTable
  /-- What was told meanwhile. -/
  events : List Event

namespace Session

variable {σ : Type}

/-- A session at the start of a source. -/
def new (source : σ) (policy : Policy) : Session σ :=
  ⟨.ofSource source, policy, none⟩

/-- How the session ended. -/
def termination? (session : Session σ) : Option Termination :=
  session.ending.map Ending.termination

/-- The diagnostics so far, at most one. -/
def diagnostics (session : Session σ) : List Diagnostic :=
  (session.ending.map Ending.diagnostics).getD []

/-- Whether the session has ended and its source is released. -/
def isFinished (session : Session σ) : Bool :=
  session.ending.isSome && session.input.closed

/-- The token that marks the end: an empty span past the character drawn last,
on its line. Behind the highest column the program makes no such token. -/
def endToken (session : Session σ) (table : SymbolTable) : Token where
  left := nextColumn session.input.last.column
  right := session.input.last.column
  line := max session.input.last.line 1
  symbol := table.endOfInput

theorem isEnd_endToken (session : Session σ) (table : SymbolTable) :
    (session.endToken table).isEnd :=
  rfl

/-- A session with its policy, its ending and its diagnostics. -/
def inspect (session : Session σ) : String :=
  Inspection.openRecord "Lexer"
    [("config", session.policy.inspect),
      ("termination", Inspection.optional (session.termination?.map Termination.name)),
      ("errors", Inspection.list (session.diagnostics.map Diagnostic.inspect))]

variable [Source σ]

/-! ## Pulling tokens -/

/-- Pulls the next token. -/
def next (session : Session σ) (table : SymbolTable) : Pulled σ :=
  match session.ending with
  | some _ => ⟨session.endToken table, session, table, []⟩
  | none =>
      match session.input.scan session.policy with
      | (.lexeme start text kind, input) =>
          let (symbol, table) := table.intern (String.ofList text) kind
          let token := ⟨start.column, lastColumn start.column text.length, start.line, symbol⟩
          ⟨token, { session with input }, table, [.token token]⟩
      | (.over ending, input) =>
          let session := { session with input := input.close, ending := some ending }
          ⟨session.endToken table, session, table, ending.events⟩

/-- Pulls the next token, unless that marks the end. -/
def next? (session : Session σ) (table : SymbolTable) : Option Token × Session σ × SymbolTable :=
  let pulled := session.next table
  (if pulled.token.isEnd then none else some pulled.token, pulled.session, pulled.table)

/-- A token that does not mark the end was made of characters consumed. -/
theorem size_lt_of_next {session : Session σ} {table : SymbolTable}
    (goesOn : (session.next table).token.isEnd = false) :
    (session.next table).session.input.size < session.input.size := by
  unfold next at goesOn ⊢
  split at goesOn <;> rename_i ending
  · cases goesOn
  · simp only [ending]
    split at goesOn <;> rename_i found
    · exact Lookahead.size_lt_of_scan found
    · cases goesOn

/-! ## Pulling all tokens -/

/-- What pulling tokens up to the end yields. -/
structure Drained (σ : Type) where
  tokens : List Token
  /-- The token that marked the end. -/
  last : Token
  session : Session σ
  table : SymbolTable
  events : List Event

/-- What was pulled, with what was pulled before in front. -/
def Drained.after (tokens : List Token) (events : List Event) (drained : Drained σ) : Drained σ :=
  { drained with tokens := tokens ++ drained.tokens, events := events ++ drained.events }

/-- Pulls tokens up to the first that marks the end. The tokens and the events
from before are handed in with the latest first. -/
def drainOnto (tokens : List Token) (events : List Event) (session : Session σ)
    (table : SymbolTable) : Drained σ :=
  let pulled := session.next table
  let events := pulled.events.reverse ++ events
  if _ended : pulled.token.isEnd then
    ⟨tokens.reverse, pulled.token, pulled.session, pulled.table, events.reverse⟩
  else
    drainOnto (pulled.token :: tokens) events pulled.session pulled.table
termination_by session.input.size
decreasing_by exact size_lt_of_next (Bool.eq_false_iff.mpr _ended)

/-- Pulls tokens up to the first that marks the end. -/
def drain (session : Session σ) (table : SymbolTable) : Drained σ :=
  drainOnto [] [] session table

theorem drainOnto_of_isEnd {tokens : List Token} {events : List Event} {session : Session σ}
    {table : SymbolTable} (ended : (session.next table).token.isEnd = true) :
    drainOnto tokens events session table =
      Drained.after tokens.reverse events.reverse
        ⟨[], (session.next table).token, (session.next table).session, (session.next table).table,
          (session.next table).events⟩ := by
  rw [drainOnto]
  simp [ended, Drained.after]

theorem drainOnto_of_goesOn {tokens : List Token} {events : List Event} {session : Session σ}
    {table : SymbolTable} (goesOn : (session.next table).token.isEnd = false) :
    drainOnto tokens events session table =
      drainOnto ((session.next table).token :: tokens)
        ((session.next table).events.reverse ++ events) (session.next table).session
        (session.next table).table := by
  conv => lhs; rw [drainOnto]
  simp [goesOn]

/-- What was pulled before stays in front. -/
theorem drainOnto_eq (tokens : List Token) (events : List Event) (session : Session σ)
    (table : SymbolTable) :
    drainOnto tokens events session table =
      (drain session table).after tokens.reverse events.reverse := by
  unfold drain
  cases ended : (session.next table).token.isEnd with
  | true =>
    rw [drainOnto_of_isEnd ended, drainOnto_of_isEnd ended]
    simp [Drained.after]
  | false =>
    have smaller := size_lt_of_next ended
    rw [drainOnto_of_goesOn ended, drainOnto_of_goesOn ended, drainOnto_eq, drainOnto_eq [_]]
    simp [Drained.after]
termination_by session.input.size
decreasing_by all_goals exact smaller

/-- A token that marks the end is all there is to drain. -/
theorem drain_of_isEnd {session : Session σ} {table : SymbolTable}
    (ended : (session.next table).token.isEnd = true) :
    session.drain table =
      ⟨[], (session.next table).token, (session.next table).session, (session.next table).table,
        (session.next table).events⟩ := by
  rw [drain, drainOnto_of_isEnd ended]
  simp [Drained.after]

/-- Any other token comes before what the session left over drains to. -/
theorem drain_of_goesOn {session : Session σ} {table : SymbolTable}
    (goesOn : (session.next table).token.isEnd = false) :
    session.drain table =
      ((session.next table).session.drain (session.next table).table).after
        [(session.next table).token] (session.next table).events := by
  rw [drain, drainOnto_of_goesOn goesOn, drainOnto_eq]
  simp

end Session

/-! ## Overflow -/

namespace Session

variable {σ : Type} [Source σ]

/-- The addition that has overflowed, if one has: counting lines, or going past
the last column for the token that marks the end. -/
def overflow? (session : Session σ) : Option Overflow :=
  if Source.overflowed session.input.source then
    some .line
  else if session.ending.isSome && (increment? session.input.last.column).isNone then
    some .column
  else
    none

/-- What was got from a session, unless an addition has overflowed in it. -/
def checked {α : Type} (session : Session σ) (result : α) : Except Overflow α :=
  match session.overflow? with
  | some overflow => .error overflow
  | none => .ok result

/-- Pulls the next token, with checks. -/
def pull (session : Session σ) (table : SymbolTable) : Except Overflow (Pulled σ) :=
  let pulled := session.next table
  pulled.session.checked pulled

/-- Pulls tokens up to the first that marks the end, with checks. -/
def pullAll (session : Session σ) (table : SymbolTable) : Except Overflow (Drained σ) :=
  let drained := session.drain table
  drained.session.checked drained

end Session

/-! ## Lexing a whole source -/

/-- What lexing a source yields. -/
structure Output where
  tokens : List Token
  diagnostics : List Diagnostic
  termination : Termination
  table : SymbolTable
  deriving DecidableEq

/-- An output with its fields. -/
def Output.inspect (output : Output) : String :=
  Inspection.record "LexOutput"
    [("tokens", Inspection.list (output.tokens.map Token.inspect)),
      ("errors", Inspection.list (output.diagnostics.map Diagnostic.inspect)),
      ("termination", output.termination.name),
      ("table", output.table.inspectHandle)]

/-- The output that was drained. -/
def Session.Drained.output {σ : Type} (drained : Drained σ) : Output where
  tokens := drained.tokens
  diagnostics := drained.session.diagnostics
  termination := drained.session.termination?.getD .exhausted
  table := drained.table

section Lexing

variable {σ : Type} [Source σ] (source : σ) (table : SymbolTable) (policy : Policy)

/-- Lexes a source with a table, up to the first token that marks the end. -/
def lexWith : Output :=
  ((Session.new source policy).drain table).output

/-- Lexes a source with a table, with checks. -/
def lexWithChecked : Except Overflow Output :=
  ((Session.new source policy).pullAll table).map Session.Drained.output

end Lexing

end Lexis
