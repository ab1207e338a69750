import Lexis.Unicode.Table

/-!
# White space

The characters with the Unicode property White_Space: the line and field
separators of ASCII, the space, and the wider blanks and separators.
-/

namespace Lexis.Unicode

set_option autoImplicit false

/-- The code points with the property White_Space. -/
def whiteSpace : Table :=
  ⟨[(0x0009, 0x000D), (0x0020, 0x0020), (0x0085, 0x0085), (0x00A0, 0x00A0), (0x1680, 0x1680),
    (0x2000, 0x200A), (0x2028, 0x2029), (0x202F, 0x202F), (0x205F, 0x205F), (0x3000, 0x3000)]⟩

/-- Whether the character has the property White_Space. -/
def isWhiteSpace (char : Char) : Bool :=
  whiteSpace.covers char

end Lexis.Unicode
