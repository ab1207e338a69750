/-!
# Kinds of tokens

A token is a word, a literal, an operator, or the end of the program. Keywords
and operators have one spelling each; the text of the other kinds varies, or, at
the end of the program, is empty. A text that is spelled like a keyword or an
operator, and the empty text, is reserved: its kind is fixed from the start
(`Kind.ofReserved?`).
-/

namespace Lexis

set_option autoImplicit false

/-- The words with a fixed meaning. -/
inductive Keyword
  | program
  | intType
  | booleanType
  | numberType
  | dateType
  | void
  | ifWord
  | thenWord
  | elseWord
  | whileWord
  | forWord
  | function
  | returnWord
  | trueWord
  | falseWord
  deriving DecidableEq

namespace Keyword

/-- Every keyword. -/
def all : List Keyword :=
  [program, intType, booleanType, numberType, dateType, void, ifWord, thenWord, elseWord,
    whileWord, forWord, function, returnWord, trueWord, falseWord]

/-- How a keyword is written in a program. -/
def spelling : Keyword → String
  | program => "program"
  | intType => "int"
  | booleanType => "boolean"
  | numberType => "number"
  | dateType => "date"
  | void => "void"
  | ifWord => "if"
  | thenWord => "then"
  | elseWord => "else"
  | whileWord => "while"
  | forWord => "for"
  | function => "function"
  | returnWord => "return"
  | trueWord => "true"
  | falseWord => "false"

/-- What a keyword is called in reports. -/
def name : Keyword → String
  | program => "Program"
  | intType => "IntType"
  | booleanType => "BooleanType"
  | numberType => "NumberType"
  | dateType => "DateType"
  | void => "Void"
  | ifWord => "If"
  | thenWord => "Then"
  | elseWord => "Else"
  | whileWord => "While"
  | forWord => "For"
  | function => "Function"
  | returnWord => "Return"
  | trueWord => "True"
  | falseWord => "False"

end Keyword

/-- The operators and separators. The mark that starts a comment is one of
them. -/
inductive Operator
  | leftBrace
  | rightBrace
  | leftParen
  | rightParen
  | leftBracket
  | rightBracket
  | comma
  | semicolon
  | colon
  | dot
  | assign
  | equal
  | not
  | notEqual
  | less
  | lessEqual
  | greater
  | greaterEqual
  | plus
  | minus
  | multiply
  | divide
  | or
  | and
  | comment
  deriving DecidableEq

namespace Operator

/-- Every operator. -/
def all : List Operator :=
  [leftBrace, rightBrace, leftParen, rightParen, leftBracket, rightBracket, comma, semicolon,
    colon, dot, assign, equal, not, notEqual, less, lessEqual, greater, greaterEqual, plus, minus,
    multiply, divide, or, and, comment]

/-- How an operator is written in a program. -/
def spelling : Operator → String
  | leftBrace => "\x7b"
  | rightBrace => "\x7d"
  | leftParen => "("
  | rightParen => ")"
  | leftBracket => "["
  | rightBracket => "]"
  | comma => ","
  | semicolon => ";"
  | colon => ":"
  | dot => "."
  | assign => "="
  | equal => "=="
  | not => "!"
  | notEqual => "!="
  | less => "<"
  | lessEqual => "<="
  | greater => ">"
  | greaterEqual => ">="
  | plus => "+"
  | minus => "-"
  | multiply => "*"
  | divide => "/"
  | or => "|"
  | and => "&"
  | comment => "//"

/-- What an operator is called in reports. -/
def name : Operator → String
  | leftBrace => "LeftBrace"
  | rightBrace => "RightBrace"
  | leftParen => "LeftParen"
  | rightParen => "RightParen"
  | leftBracket => "LeftBracket"
  | rightBracket => "RightBracket"
  | comma => "Comma"
  | semicolon => "Semicolon"
  | colon => "Colon"
  | dot => "Dot"
  | assign => "Assign"
  | equal => "Equal"
  | not => "Not"
  | notEqual => "NotEqual"
  | less => "Less"
  | lessEqual => "LessEqual"
  | greater => "Greater"
  | greaterEqual => "GreaterEqual"
  | plus => "Plus"
  | minus => "Minus"
  | multiply => "Multiply"
  | divide => "Divide"
  | or => "Or"
  | and => "And"
  | comment => "Comment"

end Operator

/-- What a token is. -/
inductive Kind
  | identifier
  | integer
  | decimal
  | date
  | keyword (word : Keyword)
  | operator (mark : Operator)
  /-- What is no token at all. -/
  | bogus
  /-- The end of the program. -/
  | endOfInput
  deriving DecidableEq

namespace Kind

/-- The kinds without a spelling of their own. -/
def unspelled : List Kind :=
  [identifier, integer, decimal, date, bogus, endOfInput]

/-- The kinds of the keywords. -/
def keywords : List Kind :=
  Keyword.all.map keyword

/-- The kinds of the operators. -/
def operators : List Kind :=
  Operator.all.map operator

/-- The one spelling of a keyword or an operator. -/
def spelling? : Kind → Option String
  | keyword word => some word.spelling
  | operator mark => some mark.spelling
  | identifier | integer | decimal | date | bogus | endOfInput => none

/-- What a kind is called in reports. -/
def name : Kind → String
  | identifier => "Identifier"
  | integer => "Integer"
  | decimal => "NumberLiteral"
  | date => "DateLiteral"
  | keyword word => word.name
  | operator mark => mark.name
  | bogus => "BogusToken"
  | endOfInput => "Eof"

/-- The kind of a name. -/
def ofName? (name : String) : Option Kind :=
  (unspelled ++ keywords ++ operators).find? (·.name == name)

/-- The texts whose kind is fixed from the start, each with its kind: the empty
text, the keywords, and the operators. -/
def reserved : List (String × Kind) :=
  ("", endOfInput) ::
    (Keyword.all.map fun word => (word.spelling, keyword word)) ++
      Operator.all.map fun mark => (mark.spelling, operator mark)

/-- The kind of a reserved text. -/
def ofReserved? (text : String) : Option Kind :=
  reserved.lookup text

end Kind

end Lexis
