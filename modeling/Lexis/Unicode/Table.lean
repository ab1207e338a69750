/-!
# Properties of code points as tables of runs

A property of characters, such as being alphabetic, is given by the runs of
consecutive code points that have it. A table lists those runs in increasing
order, so a search for a code point may stop at the first run that starts past
it (`Table.covers`).
-/

namespace Lexis.Unicode

set_option autoImplicit false

/-- The runs of consecutive code points that share a property, as pairs of a
first and a last code point, in increasing order. -/
structure Table where
  runs : List (Nat × Nat)

/-- Whether one of the runs holds the code point. -/
def coversAny : List (Nat × Nat) → Nat → Bool
  | [], _ => false
  | (first, last) :: later, code =>
      if code < first then false
      else if code ≤ last then true
      else coversAny later code

/-- Whether the character has the property. -/
def Table.covers (table : Table) (char : Char) : Bool :=
  coversAny table.runs char.toNat

end Lexis.Unicode
