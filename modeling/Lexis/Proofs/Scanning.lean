import Lexis.Scan
import Lexis.Proofs.Outlook

/-!
# Scanning what is in view

Scanning an input is a function of its outlook: of the characters still to be
handed out, the fault that ends them, and the position of the last of them. The
same passes are defined on outlooks (`Outlook.pass`), where the whole sequence of
characters is at hand and nothing is drawn, and a pass over an input finds what
the pass over its outlook finds and leaves what that leaves
(`Lookahead.pass_eq`, `Lookahead.scan_eq`). How far ahead the input has been
looked at, what its source is made of, and when the source ends or fails
therefore do not show in what is found.
-/

namespace Lexis

set_option autoImplicit false

namespace Literal

/-- How many characters a verdict is about. -/
def Verdict.length : Verdict → Nat
  | accept length _ => length
  | reject length => length

/-- A verdict is about the beginning of the candidate. -/
theorem length_judge_le (policy : Policy) (text : List Char) :
    (judge policy text).length ≤ text.length := by
  have parts (text : List Char) :
      (text.takeWhile isDigit).length + (text.dropWhile isDigit).length = text.length := by
    rw [← List.length_append, List.takeWhile_append_dropWhile]
  have first := parts text
  unfold judge
  dsimp only
  split
  · exact Nat.le_of_add_right_le (Nat.le_of_eq first)
  · rename_i mark afterMark rest
    rw [rest, List.length_cons] at first
    have second := parts afterMark
    have dangles (gathered : Nat) (fits : gathered ≤ text.length) :
        (dangling policy (text.takeWhile isDigit).length gathered).length ≤ text.length := by
      unfold dangling
      split
      · exact Nat.le_of_add_right_le (Nat.le_of_eq first)
      · exact fits
    split
    · exact dangles _ (by omega)
    · split
      · simp only [Verdict.length]
        omega
      · split
        · exact dangles _ (by omega)
        · rename_i nextMark afterNext more
          rw [more, List.length_cons] at second
          have third := parts afterNext
          split
          · exact dangles _ (by omega)
          · split <;> simp only [Verdict.length] <;> omega

/-- A candidate starts with its first digit. -/
theorem candidate_cons {first : Char} (digit : isDigit first) (later : List Char) :
    ∃ more, candidate (first :: later) = first :: more := by
  rw [candidate, longest, Phase.step_whole digit]
  exact ⟨_, rfl⟩

/-- What is accepted of a candidate is not empty. -/
theorem length_pos_of_accept {policy : Policy} {first : Char} {later : List Char} {length : Nat}
    {kind : Kind} (digit : isDigit first)
    (accepted : judge policy (candidate (first :: later)) = .accept length kind) :
    0 < length := by
  obtain ⟨more, starts⟩ := candidate_cons digit later
  exact length_pos_of_judge digit (starts ▸ accepted)

end Literal

/-- As many characters are munched as are there. -/
theorem Operator.length_munch_le (first : Char) (later : List Char) :
    (Operator.munch first later.head?).length ≤ (first :: later).length := by
  unfold Operator.munch
  split
  · rename_i second shown
    obtain ⟨rest, rfl⟩ := List.head?_eq_some_iff.mp shown
    split <;> simp
  · simp

/-! ## Passes over an outlook -/

namespace Outlook

/-- How a session ends when the characters are used up. -/
def ending (outlook : Outlook) : Ending :=
  match outlook.fault with
  | none => .exhausted
  | some fault => .stopped (.ofFault fault (fault.position?.getD outlook.last))

/-- The word in front. -/
def word (outlook : Outlook) (start : Located) : Finding × Outlook :=
  let run := outlook.characters.takeWhile fun next => continuesWord next.char
  (.lexeme start.position (chars run) .identifier, outlook.drop run.length)

/-- The literal in front, or what is none. -/
def literal (outlook : Outlook) (policy : Policy) (start : Located) : Finding × Outlook :=
  let candidate := Literal.candidate (chars outlook.characters)
  match Literal.judge policy candidate with
  | .accept length kind =>
      (.lexeme start.position (candidate.take length) kind, outlook.drop length)
  | .reject length =>
      let text := String.ofList (candidate.take length)
      (.over (.stopped ⟨.illegalLiteral, text, start.position⟩), outlook.drop length)

/-- The operator in front, unless it starts a comment. -/
def operator (outlook : Outlook) (start : Located) : Option Finding × Outlook :=
  let text := Operator.munch start.char (outlook.characters[1]?.map Located.char)
  let rest := outlook.drop text.length
  match Operator.ofChars? text with
  | none => (some (.over (.stopped ⟨.illegalCharacter, String.ofList text, start.position⟩)), rest)
  | some .comment => (none, rest.dropWhile fun next => next.position.line == start.position.line)
  | some mark => (some (.lexeme start.position text (.operator mark)), rest)

/-- One pass over what is in view. -/
def pass (outlook : Outlook) (policy : Policy) : Option Finding × Outlook :=
  let outlook := outlook.dropWhile fun next => isBlank next.char
  match outlook.characters with
  | [] => (some (.over outlook.ending), ⟨[], none, outlook.last⟩)
  | start :: _ =>
      if startsWord start.char then
        let (finding, rest) := outlook.word start
        (some finding, rest)
      else if isDigit start.char then
        let (finding, rest) := outlook.literal policy start
        (some finding, rest)
      else
        outlook.operator start

section Pass

variable {outlook : Outlook} {start : Located} {later : List Located} (policy : Policy)

theorem pass_of_nil (shown : (outlook.dropWhile fun next => isBlank next.char).characters = []) :
    outlook.pass policy = (some (.over outlook.ending), ⟨[], none, outlook.last⟩) := by
  simp only [pass, shown]
  rfl

variable (shown :
  (outlook.dropWhile fun next => isBlank next.char).characters = start :: later)

include shown

theorem pass_of_word (starts : startsWord start.char) :
    outlook.pass policy =
      (some ((outlook.dropWhile fun next => isBlank next.char).word start).1,
        ((outlook.dropWhile fun next => isBlank next.char).word start).2) := by
  simp only [pass, shown, if_pos starts]

theorem pass_of_literal (other : ¬startsWord start.char) (digit : isDigit start.char) :
    outlook.pass policy =
      (some ((outlook.dropWhile fun next => isBlank next.char).literal policy start).1,
        ((outlook.dropWhile fun next => isBlank next.char).literal policy start).2) := by
  simp only [pass, shown, if_neg other, if_pos digit]

theorem pass_of_operator (other : ¬startsWord start.char) (noDigit : ¬isDigit start.char) :
    outlook.pass policy = (outlook.dropWhile fun next => isBlank next.char).operator start := by
  simp only [pass, shown, if_neg other, if_neg noDigit]

end Pass

/-- What a pass does, told by the first character that is no blank. -/
inductive PassCase (outlook : Outlook) (policy : Policy) : Prop
  /-- There is none. -/
  | nil (shown : (outlook.dropWhile fun next => isBlank next.char).characters = [])
      (passed : outlook.pass policy = (some (.over outlook.ending), ⟨[], none, outlook.last⟩))
  | word {start : Located} {later : List Located}
      (shown : (outlook.dropWhile fun next => isBlank next.char).characters = start :: later)
      (starts : startsWord start.char)
      (passed : outlook.pass policy =
        (some ((outlook.dropWhile fun next => isBlank next.char).word start).1,
          ((outlook.dropWhile fun next => isBlank next.char).word start).2))
  | literal {start : Located} {later : List Located}
      (shown : (outlook.dropWhile fun next => isBlank next.char).characters = start :: later)
      (other : ¬startsWord start.char) (digit : isDigit start.char)
      (passed : outlook.pass policy =
        (some ((outlook.dropWhile fun next => isBlank next.char).literal policy start).1,
          ((outlook.dropWhile fun next => isBlank next.char).literal policy start).2))
  | operator {start : Located} {later : List Located}
      (shown : (outlook.dropWhile fun next => isBlank next.char).characters = start :: later)
      (other : ¬startsWord start.char) (noDigit : ¬isDigit start.char)
      (passed : outlook.pass policy =
        (outlook.dropWhile fun next => isBlank next.char).operator start)

theorem passCase (outlook : Outlook) (policy : Policy) : outlook.PassCase policy := by
  cases shown : (outlook.dropWhile fun next => isBlank next.char).characters with
  | nil => exact .nil shown (pass_of_nil policy shown)
  | cons start later =>
    by_cases starts : startsWord start.char
    · exact .word shown starts (pass_of_word policy shown starts)
    · by_cases digit : isDigit start.char
      · exact .literal shown starts digit (pass_of_literal policy shown starts digit)
      · exact .operator shown starts digit (pass_of_operator policy shown starts digit)

/-! ## Progress -/

section Progress

variable {outlook next : Outlook} {policy : Policy} {start : Located} {later : List Located}

theorem length_dropWhile_le (outlook : Outlook) (condition : Located → Bool) :
    (outlook.dropWhile condition).characters.length ≤ outlook.characters.length :=
  (List.dropWhile_sublist condition).length_le

theorem length_drop_lt {count : Nat} (shown : outlook.characters = start :: later)
    (positive : 0 < count) :
    (outlook.drop count).characters.length < outlook.characters.length := by
  rw [drop, List.length_drop, shown, List.length_cons]
  omega

theorem length_lt_of_word (shown : outlook.characters = start :: later)
    (starts : startsWord start.char) :
    (outlook.word start).2.characters.length < outlook.characters.length := by
  refine length_drop_lt shown ?_
  simp [shown, continuesWord_of_startsWord starts]

theorem length_lt_of_literal {place : Position} {text : List Char} {kind : Kind}
    (shown : outlook.characters = start :: later) (digit : isDigit start.char)
    (found : (outlook.literal policy start).1 = .lexeme place text kind) :
    (outlook.literal policy start).2.characters.length < outlook.characters.length := by
  unfold literal at found ⊢
  dsimp only at found ⊢
  split at found
  · rename_i length kind accepted
    rw [shown] at accepted
    exact length_drop_lt shown (Literal.length_pos_of_accept digit accepted)
  · cases found

theorem length_lt_of_operator (shown : outlook.characters = start :: later) :
    (outlook.operator start).2.characters.length < outlook.characters.length := by
  have munched := length_drop_lt shown (List.length_pos_iff.mpr (Operator.munch_ne_nil start.char
    (outlook.characters[1]?.map Located.char)))
  unfold operator
  dsimp only
  split
  · exact munched
  · exact Nat.lt_of_le_of_lt (length_dropWhile_le _ _) munched
  · exact munched

/-- **A pass that does not end the session leaves fewer characters in view.** -/
theorem length_lt_of_pass {finding : Option Finding}
    (answer : outlook.pass policy = (finding, next))
    (goesOn : ∀ ending, finding ≠ some (.over ending)) :
    next.characters.length < outlook.characters.length := by
  refine Nat.lt_of_lt_of_le ?_ (outlook.length_dropWhile_le fun next => isBlank next.char)
  cases outlook.passCase policy with
  | nil shown passed =>
    cases passed.symm.trans answer
    exact absurd rfl (goesOn _)
  | word shown starts passed =>
    cases passed.symm.trans answer
    exact length_lt_of_word shown starts
  | @literal start _ shown _ digit passed =>
    cases passed.symm.trans answer
    rcases found : ((outlook.dropWhile fun next => isBlank next.char).literal policy start).1
      with ⟨place, text, kind⟩ | ending
    · exact length_lt_of_literal shown digit found
    · exact absurd (congrArg some found) (goesOn ending)
  | operator shown _ _ passed =>
    have fewer := length_lt_of_operator shown
    rwa [passed.symm.trans answer] at fewer

end Progress

/-! ## Repeated passes -/

/-- Passes over what is in view until one finds something. -/
def scan (outlook : Outlook) (policy : Policy) : Finding × Outlook :=
  match _answer : outlook.pass policy with
  | (some finding, next) => (finding, next)
  | (none, next) => scan next policy
termination_by outlook.characters.length
decreasing_by exact length_lt_of_pass _answer (by simp)

theorem scan_of_some {outlook next : Outlook} {policy : Policy} {finding : Finding}
    (answer : outlook.pass policy = (some finding, next)) :
    outlook.scan policy = (finding, next) := by
  rw [scan]
  split <;> simp_all

theorem scan_of_none {outlook next : Outlook} {policy : Policy}
    (answer : outlook.pass policy = (none, next)) : outlook.scan policy = next.scan policy := by
  rw [scan]
  split <;> simp_all

/-- A scan that finds a lexeme leaves fewer characters in view. -/
theorem length_lt_of_scan {outlook next : Outlook} {policy : Policy} {start : Position}
    {text : List Char} {kind : Kind}
    (answer : outlook.scan policy = (.lexeme start text kind, next)) :
    next.characters.length < outlook.characters.length := by
  fun_induction scan outlook policy with
  | case1 outlook finding after passed =>
    cases answer
    exact length_lt_of_pass passed (by simp)
  | case2 outlook after passed ih =>
    exact Nat.lt_trans (ih answer) (length_lt_of_pass passed (by simp))

end Outlook

/-- A text where it was found, with the kind it looks like. -/
structure Lexeme where
  start : Position
  text : List Char
  kind : Kind
  deriving DecidableEq

namespace Outlook

/-- All lexemes in view, and how they end. -/
def lexemes (outlook : Outlook) (policy : Policy) : List Lexeme × Ending :=
  match _answer : outlook.scan policy with
  | (.lexeme start text kind, next) =>
      let (later, ending) := lexemes next policy
      (⟨start, text, kind⟩ :: later, ending)
  | (.over ending, _) => ([], ending)
termination_by outlook.characters.length
decreasing_by exact length_lt_of_scan _answer

theorem lexemes_of_lexeme {outlook next : Outlook} {policy : Policy} {start : Position}
    {text : List Char} {kind : Kind}
    (answer : outlook.scan policy = (.lexeme start text kind, next)) :
    outlook.lexemes policy =
      (⟨start, text, kind⟩ :: (next.lexemes policy).1, (next.lexemes policy).2) := by
  rw [lexemes]
  split <;> simp_all

theorem lexemes_of_over {outlook next : Outlook} {policy : Policy} {ending : Ending}
    (answer : outlook.scan policy = (.over ending, next)) :
    outlook.lexemes policy = ([], ending) := by
  rw [lexemes]
  split <;> simp_all

section Lexemes

variable {outlook next : Outlook} {policy : Policy}

/-- The lexemes in view are decided by what the next scan finds. -/
theorem lexemes_congr (same : outlook.scan policy = next.scan policy) :
    outlook.lexemes policy = next.lexemes policy := by
  rcases found : next.scan policy with ⟨⟨start, text, kind⟩ | ending, rest⟩
  · rw [lexemes_of_lexeme found, lexemes_of_lexeme (same.trans found)]
  · rw [lexemes_of_over found, lexemes_of_over (same.trans found)]

theorem scan_congr (same : outlook.pass policy = next.pass policy) :
    outlook.scan policy = next.scan policy := by
  rcases passed : next.pass policy with ⟨_ | finding, rest⟩
  · rw [scan_of_none passed, scan_of_none (same.trans passed)]
  · rw [scan_of_some passed, scan_of_some (same.trans passed)]

end Lexemes

end Outlook

/-! ## Passes over an input -/

namespace Lookahead

variable {σ : Type} [Source σ]

/-- An input that is used up ends as its outlook says. -/
theorem finish_eq {input : Lookahead σ} (drained : input.drained = true)
    (empty : input.window = []) :
    input.finish.1 = .over input.outlook.ending ∧
      input.finish.2.outlook = ⟨[], none, input.outlook.last⟩ := by
  have after : outlook { input with fault := none } = ⟨input.window, none, input.last⟩ :=
    outlook_of_drained drained
  rw [outlook_of_drained drained, ← empty, ← after]
  unfold finish handOverFault Outlook.ending
  cases fault : input.fault with
  | none => exact ⟨rfl, rfl⟩
  | some fault => exact ⟨rfl, rfl⟩

theorem word_eq (input : Lookahead σ) (start : Located) :
    (input.word start).1 = (input.outlook.word start).1 ∧
      (input.word start).2.outlook = (input.outlook.word start).2 := by
  obtain ⟨run, same, shown⟩ := input.look_eq (whileTrue fun next => continuesWord next.char) ()
  have consumed := outlook_consume shown
  rw [same] at consumed
  rw [longest_whileTrue] at run
  simp only [word, Outlook.word, ← run]
  exact ⟨trivial, consumed⟩

theorem literal_eq (input : Lookahead σ) (policy : Policy) (start : Located) :
    (input.literal policy start).1 = (input.outlook.literal policy start).1 ∧
      (input.literal policy start).2.outlook = (input.outlook.literal policy start).2 := by
  obtain ⟨run, same, shown⟩ :=
    input.look_eq (fun phase next => Literal.Phase.step phase next.char) .whole
  have candidate : chars (input.look (fun phase next => Literal.Phase.step phase next.char)
      Literal.Phase.whole).1 = Literal.candidate (chars input.outlook.characters) := by
    rw [run]
    exact map_longest Located.char Literal.Phase.step .whole _
  have fits := Literal.length_judge_le policy (Literal.candidate (chars input.outlook.characters))
  have length := congrArg List.length candidate
  rw [chars, List.length_map] at length
  have consumed {count : Nat} (within : count ≤ (Literal.candidate (chars
      input.outlook.characters)).length) :
      ((input.look (fun phase next => Literal.Phase.step phase next.char)
        Literal.Phase.whole).2.consume count).outlook = input.outlook.drop count := by
    rw [outlook_consume (Nat.le_trans within (length ▸ shown)), same]
  unfold literal Outlook.literal
  simp only [candidate]
  cases verdict : Literal.judge policy (Literal.candidate (chars input.outlook.characters)) with
  | accept length kind => exact ⟨rfl, consumed (by rwa [verdict] at fits)⟩
  | reject length => exact ⟨rfl, consumed (by rwa [verdict] at fits)⟩

theorem operator_eq {input : Lookahead σ} {start : Located} {later : List Located}
    (shown : input.window = start :: later) :
    (input.operator start).1 = (input.outlook.operator start).1 ∧
      (input.operator start).2.outlook = (input.outlook.operator start).2 := by
  obtain ⟨next, same⟩ := input.peek_eq 1
  obtain ⟨more, window⟩ := window_gather_ne_nil shown countdown 1
  have second : (input.peek 1).1 = more.head? := by
    show (input.gather countdown 1).window[1]? = _
    rw [window]
    exact List.head?_eq_getElem?.symm
  have fits : (Operator.munch start.char ((input.peek 1).1.map Located.char)).length ≤
      (input.peek 1).2.window.length := by
    rw [second, ← List.head?_map]
    refine Nat.le_trans (Operator.length_munch_le _ _) ?_
    show _ ≤ (input.gather countdown 1).window.length
    rw [window]
    simp
  have consumed := outlook_consume fits
  rw [same] at consumed
  unfold operator Outlook.operator
  rw [← next]
  dsimp only
  cases recognised : Operator.ofChars?
      (Operator.munch start.char ((input.peek 1).1.map Located.char)) with
  | none => exact ⟨rfl, consumed⟩
  | some mark =>
    cases mark with
    | comment =>
      exact ⟨rfl, (outlook_skipWhile _ _).trans (congrArg (Outlook.dropWhile · _) consumed)⟩
    | _ => exact ⟨rfl, consumed⟩

/-- **A pass over an input finds what a pass over its outlook finds, and leaves
what that leaves.** -/
theorem pass_eq (input : Lookahead σ) (policy : Policy) :
    (input.pass policy).1 = (input.outlook.pass policy).1 ∧
      (input.pass policy).2.outlook = (input.outlook.pass policy).2 := by
  have skipped := input.outlook_skipWhile fun next => isBlank next.char
  obtain ⟨first, used⟩ := input.window_skipWhile fun next => isBlank next.char
  unfold pass Outlook.pass
  rw [← skipped] at first ⊢
  generalize input.skipWhile _ = input at first used ⊢
  dsimp only
  cases shown : input.window with
  | nil =>
    have empty : input.outlook.characters = [] := by
      rw [outlook_of_drained (used shown)]
      exact shown
    rw [empty]
    obtain ⟨finding, rest⟩ := finish_eq (used shown) shown
    exact ⟨congrArg some finding, rest⟩
  | cons start later =>
    obtain ⟨more, seen⟩ : ∃ more, input.outlook.characters = start :: more := by
      rw [shown] at first
      exact List.head?_eq_some_iff.mp first.symm
    rw [seen]
    dsimp only
    split
    · obtain ⟨finding, rest⟩ := input.word_eq start
      exact ⟨congrArg some finding, rest⟩
    · split
      · obtain ⟨finding, rest⟩ := input.literal_eq policy start
        exact ⟨congrArg some finding, rest⟩
      · exact operator_eq shown

/-- **Scanning an input is scanning its outlook.** -/
theorem scan_eq (input : Lookahead σ) (policy : Policy) :
    (input.scan policy).1 = (input.outlook.scan policy).1 ∧
      (input.scan policy).2.outlook = (input.outlook.scan policy).2 := by
  fun_induction scan input policy with
  | case1 input finding next answer =>
    obtain ⟨found, left⟩ := input.pass_eq policy
    rw [answer] at found left
    rw [Outlook.scan_of_some (Prod.ext found.symm left.symm)]
    exact ⟨rfl, rfl⟩
  | case2 input next answer ih =>
    obtain ⟨found, left⟩ := input.pass_eq policy
    rw [answer] at found left
    rwa [Outlook.scan_of_none (Prod.ext found.symm left.symm)]

end Lookahead

end Lexis
