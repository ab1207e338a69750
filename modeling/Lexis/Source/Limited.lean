import Lexis.Source.Basic

/-!
# Sources without end

A feed is read like a source, but nothing is asked of it: it may have a next
character every time it is read. Lexing all of such a feed does not end, and
pulling one token out of it need not end either.

What does end has read some number of characters. So a feed is a source up to a
limit on the characters read from it, where it ends instead of being read once
more (`Limited`), and any limit will do. What a session does below its limit is
what it does below all higher ones.
-/

namespace Lexis

set_option autoImplicit false

/-- Reading, stating positions and closing, in any way at all. -/
structure Feed (σ : Type) where
  read : σ → Reading × σ
  position : σ → Position
  close : σ → σ

/-- A feed, and how many characters may still be read from it. -/
structure Limited {σ : Type} (feed : Feed σ) where
  state : σ
  left : Nat

namespace Limited

variable {σ : Type} {feed : Feed σ}

/-- Reads from the feed, unless the limit is reached. -/
def read (limited : Limited feed) : Reading × Limited feed :=
  match limited.left with
  | 0 => (.ended, limited)
  | left + 1 =>
      match feed.read limited.state with
      | (.char char, state) => (.char char, ⟨state, left⟩)
      | (.ended, state) => (.ended, ⟨state, left + 1⟩)
      | (.failed fault, state) => (.failed fault, ⟨state, left + 1⟩)

instance : Source (Limited feed) where
  read := read
  position limited := feed.position limited.state
  close limited := { limited with state := feed.close limited.state }
  remaining := left
  remaining_lt := by
    intro limited next char answer
    unfold read at answer
    split at answer
    · cases answer
    · rename_i left room
      split at answer
      · obtain ⟨_, rfl⟩ := Prod.mk.inj answer
        simp [room]
      · cases answer
      · cases answer

/-- More characters may be read. -/
def raise (more : Nat) (limited : Limited feed) : Limited feed :=
  { limited with left := limited.left + more }

end Limited

end Lexis
