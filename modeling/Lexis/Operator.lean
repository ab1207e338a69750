import Lexis.Kind

/-!
# Recognising operators

An operator is one or two characters long, and recognising one is a look-up on
its characters alone. Where two characters form an operator they are taken
together, and a single character is taken otherwise (`Operator.munch`).
-/

namespace Lexis.Operator

set_option autoImplicit false

/-- The operator of one character. -/
def ofChar? : Char → Option Operator
  | '\x7b' => some leftBrace
  | '\x7d' => some rightBrace
  | '(' => some leftParen
  | ')' => some rightParen
  | '[' => some leftBracket
  | ']' => some rightBracket
  | ',' => some comma
  | ';' => some semicolon
  | ':' => some colon
  | '.' => some dot
  | '=' => some assign
  | '!' => some not
  | '<' => some less
  | '>' => some greater
  | '+' => some plus
  | '-' => some minus
  | '*' => some multiply
  | '/' => some divide
  | '|' => some or
  | '&' => some and
  | _ => none

/-- The operator of two characters. -/
def ofPair? : Char → Char → Option Operator
  | '=', '=' => some equal
  | '!', '=' => some notEqual
  | '<', '=' => some lessEqual
  | '>', '=' => some greaterEqual
  | '/', '/' => some comment
  | _, _ => none

/-- The operator that is written with exactly these characters. -/
def ofChars? : List Char → Option Operator
  | [first] => ofChar? first
  | [first, second] => ofPair? first second
  | _ => none

/-- The text to be taken as one operator where a character stands that starts no
other token: both characters if they form an operator, else the first. -/
def munch (first : Char) (second : Option Char) : List Char :=
  match second with
  | some second => if (ofPair? first second).isSome then [first, second] else [first]
  | none => [first]

theorem munch_ne_nil (first : Char) (second : Option Char) : munch first second ≠ [] := by
  unfold munch
  split
  · split <;> simp
  · simp

end Lexis.Operator
