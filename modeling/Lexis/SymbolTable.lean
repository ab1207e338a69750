import Lexis.Kind
import Lexis.Text.Inspection
import Lexis.Text.Quoted

/-!
# Symbols and symbol tables

A symbol stands for all occurrences of a text in the sessions that share a
table. The first registration of a text fixes the kind of its symbol; a later
one gets the same symbol, whatever kind it asks for. Reserved texts are
registered in every table from the start, so a keyword that is scanned as a word
comes back with its own kind.

A symbol is known by the table that issued it and by its place among the
registrations there (`Symbol.same`). Neither its text nor its kind is looked at.
-/

namespace Lexis

set_option autoImplicit false

/-- A text and its kind, as issued by a table. -/
structure Symbol where
  /-- The number of the table. -/
  table : Nat
  /-- How many symbols the table had issued before. -/
  index : Nat
  text : String
  kind : Kind
  deriving DecidableEq

/-- Whether two symbols come from one and the same registration. -/
def Symbol.same (first second : Symbol) : Bool :=
  first.table == second.table && first.index == second.index

/-- A symbol with its text and kind. -/
def Symbol.inspect (symbol : Symbol) : String :=
  Inspection.applied "Symbol" [quoted symbol.text, symbol.kind.name]

/-- The symbols registered so far. -/
structure SymbolTable where
  number : Nat
  /-- The symbols registered after the reserved ones, the latest first. -/
  learned : List Symbol
  deriving DecidableEq

namespace SymbolTable

/-- A table that knows the reserved texts alone. -/
def new (number : Nat) : SymbolTable :=
  ⟨number, []⟩

/-- The symbols that a table has from the start, in the order of their
registration. -/
def reserved (table : SymbolTable) : List Symbol :=
  Kind.reserved.mapIdx fun index (text, kind) => ⟨table.number, index, text, kind⟩

/-- The symbols of a table, in the order of their registration. -/
def symbols (table : SymbolTable) : List Symbol :=
  table.reserved ++ table.learned.reverse

/-- How many texts are registered. -/
def size (table : SymbolTable) : Nat :=
  Kind.reserved.length + table.learned.length

/-- A table has one symbol for each text registered. -/
theorem length_symbols (table : SymbolTable) : table.symbols.length = table.size := by
  simp [symbols, reserved, size]

/-- The symbol of a registered text. -/
def lookup (table : SymbolTable) (text : String) : Option Symbol :=
  table.reserved.find? (·.text == text) <|> table.learned.find? (·.text == text)

/-- The symbol of a text, which is registered with the kind given if it is
new. -/
def intern (table : SymbolTable) (text : String) (kind : Kind) : Symbol × SymbolTable :=
  match table.lookup text with
  | some symbol => (symbol, table)
  | none =>
      let symbol : Symbol := ⟨table.number, table.size, text, kind⟩
      (symbol, { table with learned := symbol :: table.learned })

/-- The symbol of the end of the program. -/
def endOfInput (table : SymbolTable) : Symbol :=
  ⟨table.number, 0, "", .endOfInput⟩

/-- The end of the program is the empty text, registered before all others. -/
theorem lookup_empty (table : SymbolTable) : table.lookup "" = some table.endOfInput := by
  simp [lookup, reserved, Kind.reserved, endOfInput]

/-- A table with its size. -/
def inspect (table : SymbolTable) : String :=
  Inspection.record "SymbolTable" [("len", toString table.size)]

/-- A handle of a table with the size of the table. -/
def inspectHandle (table : SymbolTable) : String :=
  Inspection.applied "SharedSymbolTable" [table.inspect]

end SymbolTable

end Lexis
