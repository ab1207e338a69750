import Lexis.Diagnostic

/-!
# How sessions end

A session ends because its input is used up, or because of one diagnostic. What
it ends with is called its termination, and that names the diagnostic's kind
without its details.
-/

namespace Lexis

set_option autoImplicit false

/-- How a session ends. -/
inductive Ending
  /-- The input is used up. -/
  | exhausted
  /-- The session stopped early. -/
  | stopped (diagnostic : Diagnostic)
  deriving DecidableEq

/-- The ways in which sessions end. -/
inductive Termination
  | exhausted
  | sourceFault
  | illegalCharacter
  | illegalLiteral
  deriving DecidableEq

/-- What a termination is called in reports. -/
def Termination.name : Termination → String
  | exhausted => "Exhausted"
  | sourceFault => "SourceFault"
  | illegalCharacter => "IllegalCharacter"
  | illegalLiteral => "IllegalLiteral"

/-- The termination that a kind of diagnostic leads to. -/
def Diagnostic.Kind.termination : Diagnostic.Kind → Termination
  | illegalCharacter => .illegalCharacter
  | illegalLiteral => .illegalLiteral
  | sourceFault => .sourceFault

/-- A reason for stopping early is no exhaustion. -/
theorem Diagnostic.Kind.termination_ne_exhausted (kind : Diagnostic.Kind) :
    kind.termination ≠ .exhausted := by
  cases kind <;> exact nofun

/-- The termination of a session that stopped early names the kind. -/
theorem Diagnostic.Kind.termination_inj {first second : Diagnostic.Kind} :
    first.termination = second.termination ↔ first = second := by
  cases first <;> cases second <;> decide

namespace Ending

/-- The termination of a session that ends so. -/
def termination : Ending → Termination
  | exhausted => .exhausted
  | stopped diagnostic => diagnostic.kind.termination

/-- The diagnostics of a session that ends so. -/
def diagnostics : Ending → List Diagnostic
  | exhausted => []
  | stopped diagnostic => [diagnostic]

end Ending

end Lexis
