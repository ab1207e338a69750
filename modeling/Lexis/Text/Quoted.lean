import Lexis.Unicode.DefaultIgnorable
import Lexis.Unicode.GraphemeExtend
import Lexis.Unicode.Unprintable

/-!
# Quoted text

A quoted text stands between double quotes and shows each of its characters so
that it can be told from any other: quotes, backslashes and the common controls
by a letter, and what has no picture of its own by its code point.

A character has no picture of its own if nothing is drawn for it, or if it is
drawn as part of the character before it.
-/

namespace Lexis

set_option autoImplicit false

/-- Whether nothing is drawn for a character. -/
def isInvisible (char : Char) : Bool :=
  Unicode.isUnprintable char || Unicode.isDefaultIgnorable char

/-- Whether a character is drawn as part of the one before it. The two sound
marks of halfwidth katakana are not: they extend a grapheme and yet take a cell
of their own. -/
def isCombining (char : Char) : Bool :=
  Unicode.isGraphemeExtend char && char != '\uFF9E' && char != '\uFF9F'

/-- A code point in lower-case hexadecimal. -/
def hexadecimal (code : Nat) : String :=
  String.ofList (Nat.toDigits 16 code)

/-- How a character is shown inside quotes. -/
def escaped (char : Char) : String :=
  match char with
  | '"' => "\\\""
  | '\\' => "\\\\"
  | '\n' => "\\n"
  | '\r' => "\\r"
  | '\t' => "\\t"
  | '\x00' => "\\0"
  | _ =>
      if isInvisible char || isCombining char then
        "\\u\x7b" ++ hexadecimal char.toNat ++ "\x7d"
      else
        char.toString

/-- A text between quotes. -/
def quoted (text : String) : String :=
  "\"" ++ String.join (text.toList.map escaped) ++ "\""

end Lexis
