import Lexis.Session
import Lexis.Source.LineReader

/-!
# Lexing a text

The tokens of a text, with a table of its own.
-/

namespace Lexis

set_option autoImplicit false

/-- Lexes a text. -/
def lex (text : String) (policy : Policy) : Output :=
  lexWith (LineReader.ofText text) (.new 0) policy

/-- Lexes a text, with checks. -/
def lexChecked (text : String) (policy : Policy) : Except Overflow Output :=
  lexWithChecked (LineReader.ofText text) (.new 0) policy

end Lexis
