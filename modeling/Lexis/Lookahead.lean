import Lexis.Run
import Lexis.Source.Basic

/-!
# Looking ahead in a source

The scanner decides what to consume by looking at characters it has not
consumed yet. A lookahead keeps those characters in a window, in order, each
with the position its source stated for it. Looking further draws characters
from the source into the window, and they stay there until they are consumed.

A fault of the source is put aside and the input then behaves as if it had
ended. So everything before the fault is still scanned, and the fault is there
for the taking when the end is reached.

All looking is one operation: `gather` draws characters until the window shows
where the run of a recogniser ends. It looks at one character past the run, or
at the end of the input, and no further. Each character drawn brings the input
closer to its end (`toCome_lt_of_draw`), so gathering ends.
-/

namespace Lexis

set_option autoImplicit false

/-- A source with the characters drawn from it that are not consumed yet. -/
structure Lookahead (σ : Type) where
  source : σ
  closed : Bool
  window : List Located
  /-- No more characters are to be drawn. -/
  drained : Bool
  fault : Option Fault
  /-- The position of the character drawn last. -/
  last : Position
  deriving DecidableEq

namespace Lookahead

variable {σ : Type}

/-- A lookahead that has drawn nothing yet. -/
def ofSource (source : σ) : Lookahead σ :=
  ⟨source, false, [], false, none, .origin⟩

/-- The input with its first characters consumed. -/
def consume (input : Lookahead σ) (count : Nat) : Lookahead σ :=
  { input with window := input.window.drop count }

/-- Hands over the fault that ended the input, if it has not been taken. -/
def handOverFault (input : Lookahead σ) : Option Fault × Lookahead σ :=
  (input.fault, { input with fault := none })

variable [Source σ]

/-- Releases the source and drops the window. The position stays. -/
def close (input : Lookahead σ) : Lookahead σ :=
  { input with
    source := if input.closed then input.source else Source.close input.source
    closed := true
    window := []
    drained := true }

/-! ## Drawing characters -/

/-- A bound on the number of characters still to be drawn. -/
def toCome (input : Lookahead σ) : Nat :=
  if input.drained then 0 else Source.remaining input.source

/-- A bound on the number of characters still to be consumed. -/
def size (input : Lookahead σ) : Nat :=
  input.window.length + input.toCome

/-- Reads a character from the source. An end or a fault is the last thing that
the source is asked for. -/
def draw (input : Lookahead σ) : Option Located × Lookahead σ :=
  if input.drained then
    (none, input)
  else
    match Source.read input.source with
    | (.char char, source) =>
        let position := Source.position source
        (some ⟨char, position⟩, { input with source, last := position })
    | (.ended, source) => (none, { input with source, drained := true })
    | (.failed fault, source) =>
        (none, { input with source, drained := true, fault := some fault })

theorem toCome_lt_of_draw {input next : Lookahead σ} {drawn : Located}
    (answer : input.draw = (some drawn, next)) : next.toCome < input.toCome := by
  unfold draw at answer
  split at answer
  · cases answer
  · rename_i undrained
    split at answer
    · rename_i char source read
      obtain ⟨_, rfl⟩ := Prod.mk.inj answer
      simpa [toCome, undrained] using Source.remaining_lt read
    · cases answer
    · cases answer

theorem toCome_of_draw_none {input next : Lookahead σ}
    (answer : input.draw = (none, next)) : next.toCome ≤ input.toCome := by
  unfold draw at answer
  split at answer
  · exact Nat.le_of_eq (congrArg toCome (Prod.mk.inj answer).2.symm)
  · split at answer <;> cases answer
    · simp [toCome]
    · simp [toCome]

variable {state : Type}

/-- Draws characters for as long as the recogniser accepts them, and the one it
refuses; `drawn` holds those drawn before, the latest first. -/
def drawRun (step : state → Located → Option state) (current : state)
    (drawn : List Located) (input : Lookahead σ) : List Located × Lookahead σ :=
  match _answer : input.draw with
  | (none, next) => (drawn, next)
  | (some char, next) =>
      match step current char with
      | some later => drawRun step later (char :: drawn) next
      | none => (char :: drawn, next)
termination_by input.toCome
decreasing_by exact toCome_lt_of_draw _answer

/-- Every character drawn is one less to come. -/
theorem size_drawRun (step : state → Located → Option state) (current : state)
    (drawn : List Located) (input : Lookahead σ) :
    (drawRun step current drawn input).1.length + (drawRun step current drawn input).2.toCome ≤
      drawn.length + input.toCome := by
  fun_induction drawRun step current drawn input with
  | case1 current drawn input next answer =>
    have fewer := toCome_of_draw_none answer
    dsimp only
    omega
  | case2 current drawn input char next answer later accepted ih =>
    have fewer := toCome_lt_of_draw answer
    simp only [List.length_cons] at ih
    omega
  | case3 current drawn input char next answer refused =>
    have fewer := toCome_lt_of_draw answer
    simp only [List.length_cons]
    omega

/-- Draws characters until the window shows where the run of a recogniser
ends. -/
def gather (input : Lookahead σ) (step : state → Located → Option state) (start : state) :
    Lookahead σ :=
  match stateAfter? step start input.window with
  | none => input
  | some current =>
      let (drawn, next) := drawRun step current [] input
      { next with window := input.window ++ drawn.reverse }

/-- Looking consumes nothing and adds nothing. -/
theorem size_gather (input : Lookahead σ) (step : state → Located → Option state)
    (start : state) : (input.gather step start).size ≤ input.size := by
  unfold gather
  split
  · exact Nat.le_refl _
  · rename_i current _
    have bound := size_drawRun step current [] input
    simp only [List.length_nil, Nat.zero_add] at bound
    simp only [size, List.length_append, List.length_reverse, toCome] at bound ⊢
    omega

/-- Consuming characters of the window takes them off the size. -/
theorem size_consume_lt {input : Lookahead σ} {count : Nat} (takesSome : 0 < count)
    (shown : input.window ≠ []) : (input.consume count).size < input.size := by
  have positive := List.length_pos_iff.mpr shown
  have same : (input.consume count).toCome = input.toCome := rfl
  simp only [size, same]
  simp only [consume, List.length_drop]
  omega

theorem size_consume_le (input : Lookahead σ) (count : Nat) :
    (input.consume count).size ≤ input.size := by
  have same : (input.consume count).toCome = input.toCome := rfl
  simp only [size, same]
  simp only [consume, List.length_drop]
  omega

/-! ## Looking and consuming -/

/-- The character so many places past the first that is not consumed. -/
def peek (input : Lookahead σ) (count : Nat) : Option Located × Lookahead σ :=
  let seen := input.gather countdown count
  (seen.window[count]?, seen)

/-- The first character that is not consumed. -/
def current (input : Lookahead σ) : Option Located × Lookahead σ :=
  input.peek 0

/-- Consumes a character. -/
def advance (input : Lookahead σ) : Option Located × Lookahead σ :=
  let (found, seen) := input.current
  (found, seen.consume 1)

/-- Consumes so many characters, or all if there are fewer, and counts them. No
character past them is looked at. -/
def advanceBy (input : Lookahead σ) : Nat → Nat × Lookahead σ
  | 0 => (0, input)
  | count + 1 =>
      let seen := input.gather countdown count
      (min (count + 1) seen.window.length, seen.consume (count + 1))

/-- The longest run of a recogniser at the front of the input, and the input in
which it is seen. -/
def look (input : Lookahead σ) (step : state → Located → Option state) (start : state) :
    List Located × Lookahead σ :=
  let seen := input.gather step start
  (longest step start seen.window, seen)

/-- Consumes the longest run of characters that satisfy a condition. -/
def skipWhile (input : Lookahead σ) (condition : Located → Bool) : Lookahead σ :=
  let (run, seen) := input.look (whileTrue condition) ()
  seen.consume run.length

theorem size_skipWhile (input : Lookahead σ) (condition : Located → Bool) :
    (input.skipWhile condition).size ≤ input.size :=
  Nat.le_trans (size_consume_le _ _) (size_gather input _ _)

end Lookahead

end Lexis
