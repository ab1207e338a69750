import Lexis.Literal

/-!
# Options of a run

Lexing a file is governed by the policy for literals and by whether the source
is listed after its tokens.
-/

namespace Lexis

set_option autoImplicit false

/-- The choices for lexing a file. -/
structure Options where
  policy : Policy := {}
  /-- Whether the source is listed after the tokens. -/
  listing : Bool := true
  deriving DecidableEq

/-- Options with their values. -/
def Options.inspect (options : Options) : String :=
  Inspection.record "LexOptions"
    [("config", options.policy.inspect), ("listing", Inspection.truth options.listing)]

end Lexis
