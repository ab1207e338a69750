import Lexis.Command.Error
import Lexis.Files.Basic
import Lexis.Listing
import Lexis.Session

/-!
# Lexing a file

The tokens of a file are dumped one to a line as they are pulled. After them
come the banners of the diagnostics and, if it is asked for, a listing of the
file. The listing reads the file a second time, and leniently, so that a file
the session stopped in is still shown whole.

Each token is told of before its line is written. The first write that fails is
the end of the run: no further token is pulled.

An addition that overflows while tokens are pulled stops the program
(`lexFileChecked`). What it has written by then is left open.
-/

namespace Lexis

set_option autoImplicit false

/-- What lexing a file comes to. -/
structure Summary where
  /-- How many tokens were dumped. -/
  tokens : Nat
  termination : Termination
  diagnostics : List Diagnostic
  deriving DecidableEq

/-- Whether the file was lexed to its end. -/
def Summary.isClean (summary : Summary) : Bool :=
  summary.termination == .exhausted

/-- The text of a file, with replacement characters for what is no UTF-8. -/
def Files.shownText (files : Files) (path : String) : Except CommandError (List Char) :=
  match files path >>= Entry.content with
  | .ok content => .ok (Utf8.decodeLossy content)
  | .error failure => .error (.ofFailure path failure)

/-! ## Dumping tokens -/

/-- What dumping the tokens of a session yields. -/
structure Dumped (σ : Type) where
  tokens : Nat
  session : Session σ
  sink : Sink
  /-- The failure that ended the dump, if one did. -/
  failure : Option Failure
  events : List Event

namespace Session

variable {σ : Type} [Source σ]

/-- Dumps the tokens of a session, after so many from before; the events from
before are handed in with the latest first. -/
def dumpOnto (tokens : Nat) (events : List Event) (session : Session σ) (table : SymbolTable)
    (sink : Sink) : Dumped σ :=
  let pulled := session.next table
  let events := pulled.events.reverse ++ events
  if _ended : pulled.token.isEnd then
    ⟨tokens, pulled.session, sink, none, events.reverse⟩
  else
    match sink.write (pulled.token.dumpLine ++ "\n") with
    | (sink, some failure) => ⟨tokens, pulled.session, sink, some failure, events.reverse⟩
    | (sink, none) => dumpOnto (tokens + 1) events pulled.session pulled.table sink
termination_by session.input.size
decreasing_by exact size_lt_of_next (Bool.eq_false_iff.mpr _ended)

/-- Dumps the tokens of a session up to the first that marks the end. -/
def dump (session : Session σ) (table : SymbolTable) (sink : Sink) : Dumped σ :=
  dumpOnto 0 [] session table sink

/-- Dumps the tokens of a session, with checks. -/
def dumpChecked (session : Session σ) (table : SymbolTable) (sink : Sink) :
    Except Overflow (Dumped σ) :=
  let dumped := session.dump table sink
  dumped.session.checked dumped

end Session

/-- The summary of a dump that was not cut short. -/
def Dumped.summary {σ : Type} (dumped : Dumped σ) : Summary where
  tokens := dumped.tokens
  termination := dumped.session.termination?.getD .exhausted
  diagnostics := dumped.session.diagnostics

/-! ## The whole run -/

/-- A run over a file: its result, the output, and what was told. -/
structure FileRun where
  result : Except CommandError Summary
  sink : Sink
  events : List Event

/-- The lines that follow a dump: banners, and the listing if it is asked for. A
file that cannot be read again is an error after the banners. -/
def lexFileTail (files : Files) (path : String) (options : Options)
    (diagnostics : List Diagnostic) (sink : Sink) : Sink × Option CommandError :=
  match sink.writeAll (diagnostics.map fun diagnostic => diagnostic.banner ++ "\n") with
  | (sink, some failure) => (sink, some (.writing failure))
  | (sink, none) =>
      if options.listing then
        match files.shownText path with
        | .error error => (sink, some error)
        | .ok text =>
            let (sink, failure) := sink.writeListing text
            (sink, failure.map .writing)
      else
        (sink, none)

/-- The run over a file whose tokens have been dumped. -/
def FileRun.ofDumped {σ : Type} (files : Files) (path : String) (options : Options)
    (dumped : Dumped σ) : FileRun :=
  let events := .opened path options :: dumped.events
  match dumped.failure with
  | some failure => ⟨.error (.writing failure), dumped.sink, events⟩
  | none =>
      match lexFileTail files path options dumped.session.diagnostics dumped.sink with
      | (sink, some error) => ⟨.error error, sink, events⟩
      | (sink, none) =>
          match sink.flush with
          | some failure => ⟨.error (.writing failure), sink, events⟩
          | none => ⟨.ok dumped.summary, sink, events⟩

/-- Lexes the file at a path and reports on it. -/
def lexFile (files : Files) (path : String) (options : Options) (sink : Sink) : FileRun :=
  match files.openSource path with
  | .error fault => ⟨.error (.ofFault path fault), sink, []⟩
  | .ok source =>
      .ofDumped files path options ((Session.new source options.policy).dump (.new 0) sink)

/-- Lexes the file at a path and reports on it, with checks. -/
def lexFileChecked (files : Files) (path : String) (options : Options) (sink : Sink) :
    Except Overflow FileRun :=
  match files.openSource path with
  | .error fault => .ok ⟨.error (.ofFault path fault), sink, []⟩
  | .ok source =>
      ((Session.new source options.policy).dumpChecked (.new 0) sink).map
        (.ofDumped files path options)

end Lexis
