import Lexis.Unicode.Alphabetic
import Lexis.Unicode.Numeric
import Lexis.Unicode.WhiteSpace

/-!
# The four classes of characters

The scanner tells four classes of characters apart: blanks, characters that
start a word, characters that continue one, and digits. Blanks and words follow
the Unicode properties; a digit is one of the ten ASCII digits, because literals
are written in ASCII alone. A character that starts a word also continues one
(`continuesWord_of_startsWord`), so a word is never empty.

A survey lists the classes over an interval of code points as maximal runs.
-/

namespace Lexis

set_option autoImplicit false

/-- A character that separates tokens and belongs to none. -/
def isBlank (char : Char) : Bool :=
  Unicode.isWhiteSpace char

/-- A character that may stand first in a word. -/
def startsWord (char : Char) : Bool :=
  char == '_' || char == '$' || Unicode.isAlphabetic char

/-- A character that may stand in a word after the first. -/
def continuesWord (char : Char) : Bool :=
  startsWord char || Unicode.isNumeric char

/-- One of the ten ASCII digits. -/
def isDigit (char : Char) : Bool :=
  '0' ≤ char && char ≤ '9'

theorem continuesWord_of_startsWord {char : Char} (starts : startsWord char) :
    continuesWord char := by
  simp [continuesWord, starts]

/-! ## Profiles -/

/-- The classes that a character belongs to. -/
structure Profile where
  blank : Bool
  startsWord : Bool
  continuesWord : Bool
  digit : Bool
  deriving DecidableEq

/-- The classes of a character. -/
def profile (char : Char) : Profile where
  blank := isBlank char
  startsWord := Lexis.startsWord char
  continuesWord := Lexis.continuesWord char
  digit := isDigit char

/-- Consecutive code points whose characters have one profile. -/
structure ProfileRun where
  first : Nat
  last : Nat
  profile : Profile
  deriving DecidableEq

/-- Adds a code point after the runs found so far, of which the newest stands
first. A code point that is no character starts no run and joins none. -/
def ProfileRun.extend (runs : List ProfileRun) (code : Nat) : List ProfileRun :=
  if code.isValidChar then
    let found := Lexis.profile (Char.ofNat code)
    match runs with
    | [] => [⟨code, code, found⟩]
    | newest :: earlier =>
        if newest.last + 1 = code ∧ newest.profile = found then
          { newest with last := code } :: earlier
        else
          ⟨code, code, found⟩ :: newest :: earlier
  else
    runs

/-- The maximal runs of equal profile from the first code point through the
last, in increasing order. -/
def survey (first last : Nat) : List ProfileRun :=
  ((List.range' first (last + 1 - first)).foldl ProfileRun.extend []).reverse

end Lexis
