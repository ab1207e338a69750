import Lexis.Failure

/-!
# Sources of characters

A source is a state from which characters are read one at a time. It states the
position of the character it read last, and it can be closed. How a source goes
on after it has ended or failed is its own affair: the scanner does not ask
again.

A source has finitely many characters. That is the one law of the class: there
is a count of the characters to come, which falls with each one read
(`Source.remaining_lt`). Loops over a source end because of it. What can be read
without end is a source up to a limit.

A source that counts in 32 bits says whether an addition of its own has
overflowed. The program stops at the read in which one does, so what such a
source goes on to answer is never seen.
-/

namespace Lexis

set_option autoImplicit false

/-- What a read answers. -/
inductive Reading
  | char (char : Char)
  | ended
  | failed (fault : Fault)
  deriving DecidableEq

/-- States that characters are read from. -/
class Source (σ : Type) where
  /-- Reads on, and the state after it. -/
  read : σ → Reading × σ
  /-- The position of the character read last. -/
  position : σ → Position
  /-- The state with whatever is behind it released. -/
  close : σ → σ
  /-- A bound on the number of characters to come. -/
  remaining : σ → Nat
  /-- A character read is one less to come. -/
  remaining_lt : ∀ {source next : σ} {char : Char},
    read source = (.char char, next) → remaining next < remaining source
  /-- Whether an addition has overflowed in a read. -/
  overflowed : σ → Bool := fun _ => false
  overflowed_read : ∀ {source : σ}, overflowed source → overflowed (read source).2 := by simp
  overflowed_close : ∀ source : σ, overflowed (close source) = overflowed source := by simp

/-- Reads on with checks: an addition that overflows stops the program. -/
def Source.readChecked {σ : Type} [Source σ] (source : σ) : Except Overflow (Reading × σ) :=
  let answer := Source.read source
  if Source.overflowed answer.2 then .error .line else .ok answer

/-- One of two kinds of source. -/
instance {σ τ : Type} [Source σ] [Source τ] : Source (σ ⊕ τ) where
  read
    | .inl source => let (reading, next) := Source.read source; (reading, .inl next)
    | .inr source => let (reading, next) := Source.read source; (reading, .inr next)
  position
    | .inl source => Source.position source
    | .inr source => Source.position source
  close
    | .inl source => .inl (Source.close source)
    | .inr source => .inr (Source.close source)
  remaining
    | .inl source => Source.remaining source
    | .inr source => Source.remaining source
  remaining_lt := by
    rintro (source | source) (next | next) char answer <;> simp at answer
    · exact Source.remaining_lt (Prod.ext answer.1 answer.2)
    · exact Source.remaining_lt (Prod.ext answer.1 answer.2)
  overflowed
    | .inl source => Source.overflowed source
    | .inr source => Source.overflowed source
  overflowed_read := by
    rintro (source | source) before
    · exact Source.overflowed_read before
    · exact Source.overflowed_read before
  overflowed_close
    | .inl source => Source.overflowed_close source
    | .inr source => Source.overflowed_close source

end Lexis
