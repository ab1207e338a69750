import Lexis.Ending
import Lexis.Literal
import Lexis.Lookahead
import Lexis.Operator

/-!
# Scanning

One pass over the input skips blanks and then decides by the next character: it
starts a word, or it is a digit and starts a literal, or it must be an operator.
A pass that finds the mark of a comment skips the rest of the line and finds
nothing. Scanning repeats passes until one finds something (`scan`).

What is found is a lexeme, or the end of the session: the input is used up, or
it holds something that is no token. Scanning knows nothing of symbol tables, so
what it finds depends on the input and the policy alone.

Each pass that finds a lexeme or skips a comment consumes characters
(`size_lt_of_pass`), which is why scanning ends.
-/

namespace Lexis

set_option autoImplicit false

/-- What scanning finds. -/
inductive Finding
  /-- The text of a token, where it starts, and the kind it looks like. -/
  | lexeme (start : Position) (text : List Char) (kind : Kind)
  /-- The session is over. -/
  | over (ending : Ending)
  deriving DecidableEq

/-- The characters without their positions. -/
def chars (run : List Located) : List Char :=
  run.map Located.char

namespace Lookahead

variable {σ : Type} [Source σ]

/-- The input is used up: either it ended, or it failed. A fault that does not
say where it happened is placed at the character drawn last. -/
def finish (input : Lookahead σ) : Finding × Lookahead σ :=
  match input.handOverFault with
  | (some fault, input) =>
      (.over (.stopped (.ofFault fault (fault.position?.getD input.last))), input)
  | (none, input) => (.over .exhausted, input)

/-- A word: the longest run of characters that may stand in one. -/
def word (input : Lookahead σ) (start : Located) : Finding × Lookahead σ :=
  let (run, seen) := input.look (whileTrue fun next => continuesWord next.char) ()
  (.lexeme start.position (chars run) .identifier, seen.consume run.length)

/-- A literal: as much of the candidate as the verdict accepts. -/
def literal (input : Lookahead σ) (policy : Policy) (start : Located) : Finding × Lookahead σ :=
  let (run, seen) := input.look (fun phase next => Literal.Phase.step phase next.char) .whole
  match Literal.judge policy (chars run) with
  | .accept length kind =>
      (.lexeme start.position ((chars run).take length) kind, seen.consume length)
  | .reject length =>
      let text := String.ofList ((chars run).take length)
      (.over (.stopped ⟨.illegalLiteral, text, start.position⟩), seen.consume length)

/-- An operator, or nothing if it starts a comment. -/
def operator (input : Lookahead σ) (start : Located) : Option Finding × Lookahead σ :=
  let (next, seen) := input.peek 1
  let text := Operator.munch start.char (next.map Located.char)
  let rest := seen.consume text.length
  match Operator.ofChars? text with
  | none => (some (.over (.stopped ⟨.illegalCharacter, String.ofList text, start.position⟩)), rest)
  | some .comment =>
      (none, rest.skipWhile fun next => next.position.line == start.position.line)
  | some mark => (some (.lexeme start.position text (.operator mark)), rest)

/-- One pass over the input. -/
def pass (input : Lookahead σ) (policy : Policy) : Option Finding × Lookahead σ :=
  let input := input.skipWhile fun next => isBlank next.char
  match input.window with
  | [] =>
      let (finding, input) := input.finish
      (some finding, input)
  | start :: _ =>
      if startsWord start.char then
        let (finding, input) := input.word start
        (some finding, input)
      else if isDigit start.char then
        let (finding, input) := input.literal policy start
        (some finding, input)
      else
        input.operator start

/-! ## Progress -/

/-- The window of an input that has been looked at starts as it did before. -/
theorem window_gather {state : Type} (input : Lookahead σ)
    (step : state → Located → Option state) (start : state) :
    input.window <+: (input.gather step start).window := by
  unfold gather
  split
  · exact List.prefix_rfl
  · exact List.prefix_append _ _

theorem window_gather_ne_nil {state : Type} {input : Lookahead σ} {start : Located}
    {later : List Located} (shown : input.window = start :: later)
    (step : state → Located → Option state) (first : state) :
    ∃ more, (input.gather step first).window = start :: more := by
  obtain ⟨added, whole⟩ := input.window_gather step first
  exact ⟨later ++ added, by rw [← whole, shown]; rfl⟩

theorem size_lt_of_word {input : Lookahead σ} {start : Located} {later : List Located}
    (shown : input.window = start :: later) (starts : startsWord start.char) :
    (input.word start).2.size < input.size := by
  obtain ⟨more, seen⟩ := window_gather_ne_nil shown
    (whileTrue fun next => continuesWord next.char) ()
  refine Nat.lt_of_lt_of_le (size_consume_lt ?_ (by rw [seen]; simp)) (size_gather input _ _)
  simp [seen, longest, whileTrue, continuesWord_of_startsWord starts]

theorem size_lt_of_literal {input next : Lookahead σ} {policy : Policy} {start position : Located}
    {later : List Located} {place : Position} {text : List Char} {kind : Kind}
    (shown : input.window = start :: later) (digit : isDigit start.char)
    (found : input.literal policy position = (.lexeme place text kind, next)) :
    next.size < input.size := by
  obtain ⟨more, seen⟩ := window_gather_ne_nil shown
    (fun phase next => Literal.Phase.step phase next.char) .whole
  unfold literal look at found
  dsimp only at found
  split at found
  · rename_i length accepted verdict
    obtain ⟨_, rfl⟩ := Prod.mk.inj found
    refine Nat.lt_of_lt_of_le (size_consume_lt ?_ (by rw [seen]; simp)) (size_gather input _ _)
    rw [seen] at verdict
    simp only [longest, Literal.Phase.step_whole digit, chars, List.map_cons] at verdict
    exact Literal.length_pos_of_judge digit verdict
  · cases (Prod.mk.inj found).1

theorem size_lt_of_operator {input : Lookahead σ} {start : Located} {later : List Located}
    (shown : input.window = start :: later) :
    (input.operator start).2.size < input.size := by
  obtain ⟨more, seen⟩ := window_gather_ne_nil shown countdown 1
  have consumed (text : List Char) (nonempty : text ≠ []) :
      ((input.gather countdown 1).consume text.length).size < input.size :=
    Nat.lt_of_lt_of_le (size_consume_lt (List.length_pos_iff.mpr nonempty) (by rw [seen]; simp))
      (size_gather input _ _)
  unfold operator peek
  dsimp only
  split
  · exact consumed _ (Operator.munch_ne_nil _ _)
  · exact Nat.lt_of_le_of_lt (size_skipWhile _ _) (consumed _ (Operator.munch_ne_nil _ _))
  · exact consumed _ (Operator.munch_ne_nil _ _)

/-- **A pass that does not end the session consumes characters.** -/
theorem size_lt_of_pass {input next : Lookahead σ} {policy : Policy} {finding : Option Finding}
    (answer : input.pass policy = (finding, next))
    (goesOn : ∀ ending, finding ≠ some (.over ending)) :
    next.size < input.size := by
  have skipped := input.size_skipWhile fun next => isBlank next.char
  unfold pass at answer
  dsimp only at answer
  split at answer
  · unfold finish at answer
    split at answer <;> exact absurd (Prod.mk.inj answer).1.symm (goesOn _)
  · rename_i start later shown
    refine Nat.lt_of_lt_of_le ?_ skipped
    split at answer
    · rename_i starts
      obtain ⟨_, rfl⟩ := Prod.mk.inj answer
      exact size_lt_of_word shown starts
    · split at answer
      · rename_i digit
        obtain ⟨rfl, rfl⟩ := Prod.mk.inj answer
        generalize found : (input.skipWhile _).literal policy start = result at goesOn ⊢
        obtain ⟨⟨place, text, kind⟩ | ending, next⟩ := result
        · exact size_lt_of_literal shown digit found
        · exact absurd rfl (goesOn ending)
      · have smaller := size_lt_of_operator shown
        rwa [answer] at smaller

/-! ## Repeated passes -/

/-- Passes over the input until one finds something. -/
def scan (input : Lookahead σ) (policy : Policy) : Finding × Lookahead σ :=
  match _answer : input.pass policy with
  | (some finding, next) => (finding, next)
  | (none, next) => scan next policy
termination_by input.size
decreasing_by exact size_lt_of_pass _answer (by simp)

/-- A scan that finds a lexeme consumes characters. -/
theorem size_lt_of_scan {input next : Lookahead σ} {policy : Policy} {start : Position}
    {text : List Char} {kind : Kind}
    (answer : input.scan policy = (.lexeme start text kind, next)) :
    next.size < input.size := by
  fun_induction scan input policy with
  | case1 input finding after passed =>
    obtain ⟨rfl, rfl⟩ := Prod.mk.inj answer
    exact size_lt_of_pass passed (by simp)
  | case2 input after passed ih =>
    exact Nat.lt_trans (ih answer) (size_lt_of_pass passed (by simp))

end Lookahead

end Lexis
