import Lexis.CharacterClass
import Lexis.Kind
import Lexis.Run
import Lexis.Text.Inspection

/-!
# Literals that start with a digit

Integers, decimal numbers and dates all start with a digit, and it takes several
characters to tell them apart. A candidate is the longest run that could still
belong to one literal: digits, then a point and digits, or a date separator,
digits, and another separator with digits. The candidate is then judged
(`Literal.judge`): how much of it is a literal and of which kind, or how much of
it is none.

A separator with no digits after it where digits are needed is dangling. A
policy decides whether the digits before it stand alone as an integer or the
whole is rejected.
-/

namespace Lexis

set_option autoImplicit false

/-- What becomes of digits before a dangling separator. -/
inductive Dangling
  /-- They are an integer, and the separator is scanned afresh. -/
  | split
  /-- They are, with the separator, no literal. -/
  | reject
  deriving DecidableEq

/-- What a dangling separator is called in reports. -/
def Dangling.name : Dangling → String
  | split => "Split"
  | reject => "Reject"

/-- The choices left open by the rules for literals. -/
structure Policy where
  dangling : Dangling := .split
  /-- Whether the two separators of a date must be the same. -/
  uniformDates : Bool := false
  deriving DecidableEq

/-- A policy with its choices. -/
def Policy.inspect (policy : Policy) : String :=
  Inspection.record "LexerConfig"
    [("dangling_separator", policy.dangling.name),
      ("uniform_date_separators", Inspection.truth policy.uniformDates)]

/-- One of the two characters that may stand between the parts of a date. -/
def isDateSeparator (char : Char) : Bool :=
  char == '/' || char == '-'

namespace Literal

/-! ## Candidates -/

/-- How far a candidate has come. -/
inductive Phase
  /-- In the leading digits. -/
  | whole
  /-- After a decimal point. -/
  | fraction
  /-- After a first date separator. -/
  | separator
  /-- In the digits after a first date separator. -/
  | middle
  /-- After a second date separator. -/
  | last
  deriving DecidableEq

/-- Goes on with a candidate, unless the character belongs to none. -/
def Phase.step : Phase → Char → Option Phase
  | whole, char =>
      if isDigit char then some whole
      else if char = '.' then some fraction
      else if isDateSeparator char then some separator
      else none
  | fraction, char => if isDigit char then some fraction else none
  | separator, char => if isDigit char then some middle else none
  | middle, char =>
      if isDigit char then some middle
      else if isDateSeparator char then some last
      else none
  | last, char => if isDigit char then some last else none

/-- A digit among the leading ones is followed by more of them, or by what may
follow them. -/
theorem Phase.step_whole {char : Char} (digit : isDigit char) :
    Phase.step .whole char = some .whole := by
  simp [step, digit]

/-- The candidate at the front of a text. -/
def candidate (text : List Char) : List Char :=
  longest Phase.step .whole text

/-! ## Judging a candidate -/

/-- What a candidate comes to. -/
inductive Verdict
  /-- So many characters are a literal of the kind. -/
  | accept (length : Nat) (kind : Kind)
  /-- So many characters are no literal. -/
  | reject (length : Nat)
  deriving DecidableEq

/-- The verdict on a dangling separator, after the leading digits and within
what was gathered. -/
def dangling (policy : Policy) (digits gathered : Nat) : Verdict :=
  match policy.dangling with
  | .split => .accept digits .integer
  | .reject => .reject gathered

/-- Whether parts of these lengths form a date: one or two digits twice, and a
year of one, two or four. -/
def isDate (month day year : Nat) : Bool :=
  (month == 1 || month == 2) && (day == 1 || day == 2) && (year == 1 || year == 2 || year == 4)

/-- The verdict on a candidate. -/
def judge (policy : Policy) (text : List Char) : Verdict :=
  let first := text.takeWhile isDigit
  match text.dropWhile isDigit with
  | [] => .accept first.length .integer
  | mark :: afterMark =>
      let second := afterMark.takeWhile isDigit
      let two := first.length + 1 + second.length
      if second.isEmpty then dangling policy first.length two
      else if mark = '.' then .accept two .decimal
      else
        match afterMark.dropWhile isDigit with
        | [] => dangling policy first.length two
        | nextMark :: afterNext =>
            let third := afterNext.takeWhile isDigit
            let three := two + 1 + third.length
            if third.isEmpty then dangling policy first.length three
            else if (!policy.uniformDates || mark == nextMark) &&
                isDate first.length second.length third.length then
              .accept three .date
            else
              .reject three

/-- A literal that is accepted has a character. -/
theorem length_pos_of_judge {policy : Policy} {digit : Char} {text : List Char} {length : Nat}
    {kind : Kind} (leading : isDigit digit)
    (accepted : judge policy (digit :: text) = .accept length kind) : 0 < length := by
  have positive : 0 < ((digit :: text).takeWhile isDigit).length := by
    simp [leading]
  simp only [judge, dangling] at accepted
  repeat' split at accepted
  all_goals cases accepted
  all_goals omega

end Literal

end Lexis
