import Lexis.Session

/-!
# Sessions that share tables

A workspace holds symbol tables and sessions. Each session works with one of the
tables, and several may work with the same one, so that they share its symbols.
Tables and sessions are numbered from zero in the order in which they are made,
and none is ever removed. Whatever one session or caller registers in a table is
there for all that use the table later.

An overflow in any of the sessions stops the program (`Workspace.overflow?`).
-/

namespace Lexis

set_option autoImplicit false

/-- Tables, and sessions that use them. -/
structure Workspace (σ : Type) where
  tables : List SymbolTable
  /-- The sessions, each with the number of its table. -/
  sessions : List (Session σ × Nat)

namespace Workspace

variable {σ : Type}

/-- A workspace with nothing in it. -/
def empty : Workspace σ :=
  ⟨[], []⟩

/-- Makes a table. -/
def addTable (workspace : Workspace σ) : Nat × Workspace σ :=
  let number := workspace.tables.length
  (number, { workspace with tables := workspace.tables ++ [.new number] })

/-- Makes a session over a source that uses a table. -/
def addSession (workspace : Workspace σ) (source : σ) (policy : Policy) (table : Nat) :
    Nat × Workspace σ :=
  (workspace.sessions.length,
    { workspace with sessions := workspace.sessions ++ [(.new source policy, table)] })

/-- Makes a session over a source with a table of its own. -/
def addLoneSession (workspace : Workspace σ) (source : σ) (policy : Policy) :
    Nat × Workspace σ :=
  let (table, workspace) := workspace.addTable
  workspace.addSession source policy table

/-- Changes a table and reports on it, if there is one of the number. -/
def withTable? {α : Type} (workspace : Workspace σ) (number : Nat)
    (act : SymbolTable → α × SymbolTable) : Option (α × Workspace σ) := do
  let table ← workspace.tables[number]?
  let (report, table) := act table
  return (report, { workspace with tables := workspace.tables.set number table })

/-- Lets a session act on its table and reports on it, if there is a session of
the number. -/
def withSession? {α : Type} (workspace : Workspace σ) (number : Nat)
    (act : Session σ → SymbolTable → α × Session σ × SymbolTable) :
    Option (α × Workspace σ) := do
  let (session, tableNumber) ← workspace.sessions[number]?
  let table ← workspace.tables[tableNumber]?
  let (report, session, table) := act session table
  return (report,
    { tables := workspace.tables.set tableNumber table
      sessions := workspace.sessions.set number (session, tableNumber) })

/-- Registers a text in a table. -/
def intern? (workspace : Workspace σ) (number : Nat) (text : String) (kind : Kind) :
    Option (Symbol × Workspace σ) :=
  workspace.withTable? number (·.intern text kind)

variable [Source σ]

/-- Pulls a token from a session. -/
def pull? (workspace : Workspace σ) (number : Nat) : Option (Token × Workspace σ) :=
  workspace.withSession? number fun session table =>
    let pulled := session.next table
    (pulled.token, pulled.session, pulled.table)

/-- Pulls a token from a session, unless that marks the end. -/
def pullToken? (workspace : Workspace σ) (number : Nat) :
    Option (Option Token × Workspace σ) :=
  workspace.withSession? number Session.next?

/-- Pulls the tokens of a session up to the first that marks the end. -/
def drain? (workspace : Workspace σ) (number : Nat) : Option (List Token × Workspace σ) :=
  workspace.withSession? number fun session table =>
    let drained := session.drain table
    (drained.tokens, drained.session, drained.table)

/-- Lexes a whole source with a table. -/
def lexWith? (workspace : Workspace σ) (number : Nat) (source : σ) (policy : Policy) :
    Option (Output × Workspace σ) :=
  workspace.withTable? number fun table =>
    let output := lexWith source table policy
    (output, output.table)

/-- Lexes a whole source with a table, with checks. -/
def lexWithChecked? (workspace : Workspace σ) (number : Nat) (source : σ) (policy : Policy) :
    Option (Except Overflow Output × Workspace σ) :=
  workspace.withTable? number fun table =>
    match lexWithChecked source table policy with
    | .ok output => (.ok output, output.table)
    | .error overflow => (.error overflow, table)

/-- The addition that has overflowed in a session, if there is one. -/
def overflow? (workspace : Workspace σ) : Option Overflow :=
  workspace.sessions.findSome? fun (session, _) => session.overflow?

end Workspace

end Lexis
