import Lexis.Source.LineReader

/-!
# Files

What is known of a file system is where each path leads: to a file, to a
directory, or nowhere. A directory can be opened like a file, and it is the
first read of it that fails.
-/

namespace Lexis

set_option autoImplicit false

/-- What a path leads to. -/
inductive Entry
  | file (content : List UInt8)
  | directory
  deriving DecidableEq

/-- Where paths lead. -/
abbrev Files := String → Except Failure Entry

namespace Entry

/-- The bytes of an entry that is read from its start. -/
def stream : Entry → ByteStream
  | file content => [.bytes content]
  | directory => [.failure .directoryRead]

/-- All the bytes of an entry. -/
def content : Entry → Except Failure (List UInt8)
  | file content => .ok content
  | directory => .error .directoryRead

end Entry

/-- A reader at the start of the file at a path. -/
def Files.openSource (files : Files) (path : String) : Except Fault LineReader :=
  match files path with
  | .ok entry => .ok (.ofStream entry.stream)
  | .error cause => .error (.opening path cause)

end Lexis
