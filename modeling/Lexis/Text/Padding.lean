/-!
# Padding

A text that is shorter than its column is filled with spaces; a longer one is
left whole.
-/

namespace Lexis

set_option autoImplicit false

/-- The spaces that a text lacks to a width. -/
def padding (width : Nat) (text : String) : String :=
  String.ofList (List.replicate (width - text.length) ' ')

/-- A text at the left end of its column. -/
def fillRight (width : Nat) (text : String) : String :=
  text ++ padding width text

/-- A text at the right end of its column. -/
def fillLeft (width : Nat) (text : String) : String :=
  padding width text ++ text

end Lexis
