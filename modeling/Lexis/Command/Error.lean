import Lexis.Failure

/-!
# Failures of a command

A command fails when its arguments make no sense, when it cannot read its file,
or when it cannot write its output. Diagnostics are none of these: a program
that does not lex is reported, and the report is a success.
-/

namespace Lexis

set_option autoImplicit false

/-- Why a command failed. -/
inductive CommandError
  | notFound (path : String)
  | permissionDenied (path : String)
  | invalidUtf8 (path : String)
  | reading (path : String) (cause : Failure)
  | writing (cause : Failure)
  | missingPath
  | unknownOption (option : String)
  deriving DecidableEq

namespace CommandError

/-- The failure of a command whose file failed. -/
def ofFailure (path : String) (failure : Failure) : CommandError :=
  match failure.kind with
  | .notFound => notFound path
  | .permissionDenied => permissionDenied path
  | .invalidData => invalidUtf8 path
  | _ => reading path failure

/-- The failure of a command whose source had a fault. -/
def ofFault (path : String) (fault : Fault) : CommandError :=
  ofFailure path fault.cause

/-- The wording of a failure. -/
def message : CommandError → String
  | notFound path => s!"cannot find file '{path}'"
  | permissionDenied path => s!"permission denied reading '{path}'"
  | invalidUtf8 path => s!"'{path}' contains invalid UTF-8 data"
  | reading path cause => s!"error reading '{path}': {cause.message}"
  | writing cause => s!"failed to write output: {cause.message}"
  | missingPath => "missing file path"
  | unknownOption option => s!"unknown option '{option}'"

/-- Whether the command was used wrongly, so that its usage should be shown. -/
def isMisuse : CommandError → Bool
  | missingPath | unknownOption _ => true
  | _ => false

/-- The failure behind a failure. -/
def cause? : CommandError → Option Failure
  | reading _ cause | writing cause => some cause
  | _ => none

end CommandError

end Lexis
