import Lexis.Position
import Lexis.SymbolTable
import Lexis.Text.Padding

/-!
# Tokens

A token is an occurrence of a symbol: the line it stands on and the columns of
its first and last characters. Only the token at the end of the program spans no
character, and there the last column is the one before the first.
-/

namespace Lexis

set_option autoImplicit false

/-- An occurrence of a symbol. -/
structure Token where
  left : UInt32
  right : UInt32
  line : UInt32
  symbol : Symbol
  deriving DecidableEq

namespace Token

/-- The text of a token. -/
def text (token : Token) : String :=
  token.symbol.text

/-- The kind of a token. -/
def kind (token : Token) : Kind :=
  token.symbol.kind

/-- Whether a token marks the end of the program. -/
def isEnd (token : Token) : Bool :=
  token.kind == .endOfInput

/-- A token with its kind, text and place. -/
def inspect (token : Token) : String :=
  s!"{token.kind.name} {quoted token.text} @ {token.line}:{token.left}-{token.right}"

/-- A token as a line of a dump: text, columns, line and kind. The columns of the
dump are padded with spaces and widen when their content is longer. -/
def dumpLine (token : Token) : String :=
  let text := fillRight 11 token.text
  let left := fillRight 8 (toString token.left)
  let right := fillRight 8 (toString token.right)
  let line := fillRight 8 (toString token.line)
  s!"{text} left: {left} right: {right} line: {line} {token.kind.name}"

end Token

end Lexis
