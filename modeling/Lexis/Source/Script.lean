import Lexis.Source.Basic

/-!
# Scripted sources

A scripted source plays back characters with positions of its maker's choosing.
The positions need not be those of any text: they may repeat, run backwards or
stand at the end of their range. After the last character it fails once, if its
maker says so, and then has ended.
-/

namespace Lexis

set_option autoImplicit false

/-- A source that plays back what it was given. -/
structure Script where
  characters : List Located
  fault : Option Fault
  position : Position
  deriving DecidableEq

namespace Script

/-- The script of some characters and a closing fault, before its first
character. -/
def ofCharacters (characters : List Located) (fault : Option Fault) : Script :=
  ⟨characters, fault, .origin⟩

/-- Plays the next character, or the fault, or the end. -/
def read (script : Script) : Reading × Script :=
  match script.characters, script.fault with
  | ⟨char, position⟩ :: later, _ => (.char char, { script with characters := later, position })
  | [], some fault => (.failed fault, { script with fault := none })
  | [], none => (.ended, script)

/-- Drops all that was still to be played. -/
def close (script : Script) : Script :=
  { script with characters := [], fault := none }

instance : Source Script where
  read := read
  position := position
  close := close
  remaining script := script.characters.length
  remaining_lt := by
    intro script next char answer
    unfold read at answer
    split at answer
    · rename_i later _ first
      obtain ⟨_, rfl⟩ := Prod.mk.inj answer
      simp [first]
    · cases answer
    · cases answer

end Script

end Lexis
