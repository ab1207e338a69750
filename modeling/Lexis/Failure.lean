import Lexis.Position
import Lexis.Text.Utf8

/-!
# Failures of files and sources

A failure says what an operation on a file ran into: its kind, which the rest of
the program acts on, and its wording, which is shown. A fault is a failure that
a source met, either when it was opened or at the first character it could not
read.
-/

namespace Lexis

set_option autoImplicit false

/-- The kinds of failure told apart. -/
inductive Failure.Kind
  | notFound
  | permissionDenied
  | invalidData
  | invalidInput
  | unexpectedEnd
  | notADirectory
  | isADirectory
  | nameTooLong
  | other
  deriving DecidableEq

/-- A failed operation on a file or a device. -/
structure Failure where
  kind : Failure.Kind
  message : String
  deriving DecidableEq

namespace Failure

/-- No file has the name. -/
def noSuchFile : Failure :=
  ⟨.notFound, "No such file or directory (os error 2)"⟩

/-- The file may not be read. -/
def refused : Failure :=
  ⟨.permissionDenied, "Permission denied (os error 13)"⟩

/-- The name passes through something that is no directory. -/
def throughFile : Failure :=
  ⟨.notADirectory, "Not a directory (os error 20)"⟩

/-- A directory has no bytes to read. -/
def directoryRead : Failure :=
  ⟨.isADirectory, "Is a directory (os error 21)"⟩

/-- The name, or a part of it, is longer than names may be. -/
def longName : Failure :=
  ⟨.nameTooLong, "File name too long (os error 36)"⟩

/-- The name holds the character that ends names. -/
def nulInName : Failure :=
  ⟨.invalidInput, "file name contained an unexpected NUL byte"⟩

/-- The bytes are no UTF-8. -/
def ofMalformation (malformation : Utf8.Malformation) : Failure :=
  ⟨.invalidData, malformation.message⟩

end Failure

/-- What stopped a source. -/
inductive Fault
  /-- The source at a path could not be opened. -/
  | opening (path : String) (cause : Failure)
  /-- The character at a position could not be read. -/
  | reading (position : Position) (cause : Failure)
  deriving DecidableEq

namespace Fault

/-- The failure behind a fault. -/
def cause : Fault → Failure
  | opening _ cause => cause
  | reading _ cause => cause

/-- Where reading stopped, for a source that had been opened. -/
def position? : Fault → Option Position
  | opening _ _ => none
  | reading position _ => some position

/-- The wording of a fault. -/
def message : Fault → String
  | opening path cause => s!"cannot open '{path}': {cause.message}"
  | reading ⟨line, column⟩ cause =>
      s!"read failed at line {line}, column {column}: {cause.message}"

end Fault

end Lexis
