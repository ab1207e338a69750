/-!
# Positions in a source

Lines and columns are counted from one in 32 bits; the position before the
first character is the origin. Columns past the last representable number stay
there, which is what `UInt32.ofNatClamp` does to a natural number.

Two additions do not stay there: the one that counts lines, and the one that
finds the column behind the last character. Behind the highest number they
overflow. The program checks them and stops where one does (`increment?`);
without the checks it would go on at zero, as addition in 32 bits does. What it
computes is defined without the checks, and apart from that whether an addition
has overflowed.
-/

namespace Lexis

set_option autoImplicit false

/-- A line and a column. -/
structure Position where
  line : UInt32
  column : UInt32
  deriving DecidableEq

/-- The position before the first character. -/
def Position.origin : Position :=
  ⟨0, 0⟩

/-- A character with the position its source states for it. -/
structure Located where
  char : Char
  position : Position
  deriving DecidableEq

/-- The column of the last of so many characters, the first of which stands at
the column given. The column past the end is found first and does not leave the
32 bits; the last character stands one before it. -/
def lastColumn (first : UInt32) (length : Nat) : UInt32 :=
  .ofNat ((UInt32.ofNatClamp (first.toNat + length)).toNat - 1)

/-- The additions that may overflow: for the number of the next line, and for the
column behind the last character. -/
inductive Overflow
  | line
  | column
  deriving DecidableEq

/-- One more, unless that leaves the 32 bits. -/
def increment? (number : UInt32) : Option UInt32 :=
  if number < 4294967295 then some (number + 1) else none

/-- The column after the one given, without the check. Behind the highest column
this is zero, and the program does not get there: `increment?` is `none`. -/
def nextColumn (column : UInt32) : UInt32 :=
  column + 1

end Lexis
