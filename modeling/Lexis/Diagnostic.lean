import Lexis.Failure
import Lexis.Text.Inspection
import Lexis.Text.Quoted

/-!
# Diagnostics

A diagnostic says why a session stopped before the end of its program: a
character or a literal that is no token, or a source that could not be read
on. It quotes the text at fault, or the wording of the fault, and where it
stands.
-/

namespace Lexis

set_option autoImplicit false

/-- The reasons for stopping early. -/
inductive Diagnostic.Kind
  | illegalCharacter
  | illegalLiteral
  | sourceFault
  deriving DecidableEq

namespace Diagnostic.Kind

/-- A reason in words. -/
def message : Diagnostic.Kind → String
  | illegalCharacter => "illegal character"
  | illegalLiteral => "illegal literal"
  | sourceFault => "source read failed"

/-- What a reason is called in reports. -/
def name : Diagnostic.Kind → String
  | illegalCharacter => "IllegalCharacter"
  | illegalLiteral => "IllegalLiteral"
  | sourceFault => "SourceFault"

end Diagnostic.Kind

/-- Why and where a session stopped early. -/
structure Diagnostic where
  kind : Diagnostic.Kind
  text : String
  position : Position
  deriving DecidableEq

namespace Diagnostic

/-- The diagnostic of a fault met at a position. -/
def ofFault (fault : Fault) (position : Position) : Diagnostic :=
  ⟨.sourceFault, fault.message, position⟩

/-- A diagnostic in one line, with its place. -/
def message (diagnostic : Diagnostic) : String :=
  let line := diagnostic.position.line
  let column := diagnostic.position.column
  s!"{diagnostic.kind.message}: {diagnostic.text} (line {line}, column {column})"

/-- A diagnostic as it follows a dump, marked so that it is not overlooked. -/
def banner (diagnostic : Diagnostic) : String :=
  s!"******** {diagnostic.kind.message}: {diagnostic.text}"

/-- A diagnostic with its fields. -/
def inspect (diagnostic : Diagnostic) : String :=
  Inspection.record "LexError"
    [("kind", diagnostic.kind.name), ("text", quoted diagnostic.text),
      ("line", toString diagnostic.position.line),
      ("column", toString diagnostic.position.column)]

end Diagnostic

end Lexis
