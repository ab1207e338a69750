import Lexis.Sink
import Lexis.Text.Lines
import Lexis.Text.Padding

/-!
# Listings

A listing shows a text line by line, each line behind its number. Numbers are
counted from one and stand at the right end of a column of three.
-/

namespace Lexis

set_option autoImplicit false

/-- A numbered line, with its line feed. -/
def listingLine (number : Nat) (line : List Char) : String :=
  fillLeft 3 (toString number) ++ ": " ++ String.ofList line ++ "\n"

/-- The numbered lines of a text. -/
def listing (text : List Char) : List String :=
  (lines text).mapIdx fun index line => listingLine (index + 1) line

/-- Writes the listing of a text. -/
def Sink.writeListing (sink : Sink) (text : List Char) : Sink × Option Failure :=
  sink.writeAll (listing text)

end Lexis
