import Lexis.Proofs.Drawing
import Lexis.Proofs.Scanning

/-!
# The loops of a scan

A loop repeats a body until that answers a result (`Loop`). Three loops make up a scan,
and each of them ends, with the result that is stated for it.

A look peeks at one character after the other, for as long as its recogniser accepts them
(`Lookahead.loop_look`). Skipping consumes each character accepted before it looks at the
next one (`Lookahead.loop_skipWhile`); blanks, words and the rests of lines are skipped in
this way. A scan repeats passes until one finds something (`Lookahead.loop_scan`).

The first two go through one turn for each character of a run, and one more that finds its
end. The passes that are repeated are those that found comments. Each of them consumes two
characters or more, so there are no more of them than the input has characters left.
-/

namespace Lexis

set_option autoImplicit false

/-- A loop that ends: from a state, its body is gone through so many times and answers a
result at last. -/
inductive Loop {state result : Type} (body : state → state ⊕ result) :
    state → Nat → result → Prop
  | stop {now : state} {last : result} : body now = .inr last → Loop body now 1 last
  | turn {now later : state} {turns : Nat} {last : result} :
      body now = .inl later → Loop body later turns last → Loop body now (turns + 1) last

/-- How a loop ends does not depend on chance. -/
theorem Loop.unique {state result : Type} {body : state → state ⊕ result} {now : state}
    {turns turns' : Nat} {last last' : result} (first : Loop body now turns last)
    (second : Loop body now turns' last') : turns = turns' ∧ last = last' := by
  induction first generalizing turns' with
  | stop answer =>
    cases second with
    | stop answer' => exact ⟨rfl, Sum.inr.inj (answer.symm.trans answer')⟩
    | turn answer' _ => cases answer.symm.trans answer'
  | turn answer _ ih =>
    cases second with
    | stop answer' => cases answer.symm.trans answer'
    | turn answer' more =>
      obtain rfl := Sum.inl.inj (answer.symm.trans answer')
      obtain ⟨rfl, rfl⟩ := ih more
      exact ⟨rfl, rfl⟩

namespace Lookahead

variable {σ : Type} [Source σ]

/-! ## Turns -/

/-- One turn of a look: peeks at the character after so many, and goes on behind it if it
is accepted. -/
def lookTurn {state : Type} (step : state → Located → Option state) :
    state × Nat × Lookahead σ → (state × Nat × Lookahead σ) ⊕ (Nat × Lookahead σ)
  | (current, count, input) =>
      let (found, seen) := input.peek count
      match found.bind (step current) with
      | some later => .inl (later, count + 1, seen)
      | none => .inr (count, seen)

/-- One turn of skipping: consumes the next character if it satisfies the condition. -/
def skipTurn (condition : Located → Bool) (input : Lookahead σ) : Lookahead σ ⊕ Lookahead σ :=
  let (found, seen) := input.current
  match found.filter condition with
  | some _ => .inl (seen.consume 1)
  | none => .inr seen

/-- One turn of a scan: a pass, and another turn if that found nothing. -/
def passTurn (policy : Policy) (input : Lookahead σ) :
    Lookahead σ ⊕ (Finding × Lookahead σ) :=
  match input.pass policy with
  | (none, next) => .inl next
  | (some finding, next) => .inr (finding, next)

/-! ## Peeking past the window -/

omit [Source σ] in
/-- An input with another window. -/
def showing (input : Lookahead σ) (window : List Located) : Lookahead σ :=
  { input with window }

section Peeks

variable {input : Lookahead σ}

/-- What is drawn does not depend on the window, and the window stays. -/
theorem draw_showing (input : Lookahead σ) (window : List Located) :
    (input.showing window).draw = (input.draw.1, input.draw.2.showing window) := by
  cases drained : input.drained with
  | true =>
    have drained' : (input.showing window).drained = true := drained
    rw [draw_of_drained drained, draw_of_drained drained']
  | false =>
    have undrained : (input.showing window).drained = false := drained
    have same : Source.read (input.showing window).source = Source.read input.source := rfl
    rcases read : Source.read input.source with ⟨char | _ | fault, source⟩
    · rw [draw_of_char drained read, draw_of_char undrained (same.trans read)]
      rfl
    · rw [draw_of_ended drained read, draw_of_ended undrained (same.trans read)]
      rfl
    · rw [draw_of_failed drained read, draw_of_failed undrained (same.trans read)]
      rfl

theorem peek_of_shown {count : Nat} {found : Located}
    (shown : input.window[count]? = some found) : input.peek count = (some found, input) := by
  have within := (List.getElem?_eq_some_iff.mp shown).1
  rw [peek, gather, stateAfter?_countdown_eq_none_iff.mpr within]
  exact congrArg (·, input) shown

/-- Peeking behind a part of the window shows the next character. -/
theorem peek_of_window {before later : List Located} {found : Located}
    (window : input.window = before ++ found :: later) :
    input.peek before.length = (some found, input) := by
  refine peek_of_shown ?_
  rw [window, List.getElem?_append_right (Nat.le_refl _), Nat.sub_self]
  rfl

/-- Peeking right behind the window draws a character. -/
theorem peek_length (input : Lookahead σ) (window : List Located) :
    (input.showing window).peek window.length =
      (input.draw.1, input.draw.2.showing (window ++ input.draw.1.toList)) := by
  have enough := stateAfter?_countdown (Nat.le_refl window.length)
  have gathered : (input.showing window).gather countdown window.length =
      input.draw.2.showing (window ++ input.draw.1.toList) := by
    have drawn := draw_showing input window
    have same : (input.showing window).window = window := rfl
    rw [gather, same, enough, Nat.sub_self]
    dsimp only
    rcases answer : input.draw with ⟨_ | char, next⟩
    · rw [answer] at drawn
      rw [drawRun_of_none drawn]
      rfl
    · rw [answer] at drawn
      rw [drawRun_of_refused drawn (by rfl)]
      rfl
  rw [peek, gathered]
  refine congrArg (·, _) ?_
  show (window ++ input.draw.1.toList)[window.length]? = input.draw.1
  rw [List.getElem?_append_right (Nat.le_refl _), Nat.sub_self]
  cases input.draw.1 <;> rfl

end Peeks

/-! ## Looks -/

section Looks

variable {state : Type} {step : state → Located → Option state}

theorem lookTurn_of_accepted {current later : state} {count : Nat} {input seen : Lookahead σ}
    {found : Located} (peeked : input.peek count = (some found, seen))
    (accepted : step current found = some later) :
    lookTurn step (current, count, input) = .inl (later, count + 1, seen) := by
  simp only [lookTurn, peeked, Option.bind_some, accepted]

theorem lookTurn_of_refused {current : state} {count : Nat} {input seen : Lookahead σ}
    {found : Option Located} (peeked : input.peek count = (found, seen))
    (refused : found.bind (step current) = none) :
    lookTurn step (current, count, input) = .inr (count, seen) := by
  simp only [lookTurn, peeked, refused]

/-- The loop goes through the characters of the window that are accepted. -/
theorem loop_look_of_window {input : Lookahead σ} {before accepted later : List Located}
    (window : input.window = before ++ accepted ++ later) {current reached : state}
    (goesOn : stateAfter? step current accepted = some reached) {turns : Nat}
    {last : Nat × Lookahead σ}
    (rest : Loop (lookTurn step) (reached, (before ++ accepted).length, input) turns last) :
    Loop (lookTurn step) (current, before.length, input) (turns + accepted.length) last := by
  induction accepted generalizing before current with
  | nil =>
    cases goesOn
    rwa [List.append_nil] at rest
  | cons first accepted ih =>
    have peeked := peek_of_window (window.trans (List.append_assoc _ _ _))
    rw [stateAfter?] at goesOn
    cases one : step current first with
    | none =>
      rw [one] at goesOn
      cases goesOn
    | some next =>
      rw [one] at goesOn
      rw [List.append_cons] at rest window
      have behind := ih window goesOn rest
      rw [List.length_append] at behind
      exact .turn (lookTurn_of_accepted peeked one) behind

/-- The loop that draws characters behind the window. -/
theorem loop_look_of_drawRun (current : state) (drawn : List Located) (input : Lookahead σ)
    {start : state} {window : List Located}
    (accepted : stateAfter? step start (window ++ drawn.reverse) = some current) :
    let all := window ++ (drawRun step current drawn input).1.reverse
    let next := (drawRun step current drawn input).2
    ∃ turns, turns + (window ++ drawn.reverse).length = (longest step start all).length + 1 ∧
      Loop (lookTurn step)
        (current, (window ++ drawn.reverse).length, input.showing (window ++ drawn.reverse))
        turns ((longest step start all).length, next.showing all) := by
  fun_induction drawRun step current drawn input with
  | case1 current drawn input next answer =>
    intro all last
    have peeked := input.peek_length (window ++ drawn.reverse)
    have whole := longest_append_of_accepted accepted []
    rw [answer, Option.toList_none, List.append_nil] at peeked
    rw [List.append_nil, longest, List.append_nil] at whole
    simp only [all, last, whole]
    exact ⟨1, Nat.add_comm _ _, .stop (lookTurn_of_refused peeked rfl)⟩
  | case2 current drawn input char next answer later goesOn ih =>
    have more : window ++ (char :: drawn).reverse = window ++ drawn.reverse ++ [char] := by
      rw [List.reverse_cons, List.append_assoc]
    have peeked := input.peek_length (window ++ drawn.reverse)
    rw [answer, Option.toList_some, ← more] at peeked
    have reached : stateAfter? step start (window ++ (char :: drawn).reverse) = some later := by
      rw [more, stateAfter?_append, accepted, Option.bind_some, stateAfter?, goesOn]
      rfl
    have length : (window ++ (char :: drawn).reverse).length =
        (window ++ drawn.reverse).length + 1 := by
      rw [more, List.length_append]
      rfl
    obtain ⟨turns, sum, rest⟩ := ih reached
    rw [length] at rest sum
    exact ⟨turns + 1, by omega, .turn (lookTurn_of_accepted peeked goesOn) rest⟩
  | case3 current drawn input char next answer refused =>
    intro all last
    have more : all = window ++ drawn.reverse ++ [char] := by
      simp only [all, List.reverse_cons, List.append_assoc]
    have peeked := input.peek_length (window ++ drawn.reverse)
    rw [answer, Option.toList_some, ← more] at peeked
    have whole : longest step start all = window ++ drawn.reverse := by
      rw [more, longest_append_cons_of_refused accepted refused]
    rw [whole]
    exact ⟨1, Nat.add_comm _ _, .stop (lookTurn_of_refused peeked refused)⟩

/-- **A look is the loop that peeks at one character more in each turn,** as long as they
are accepted. -/
theorem loop_look (input : Lookahead σ) (step : state → Located → Option state) (start : state) :
    Loop (lookTurn step) (start, 0, input) ((input.look step start).1.length + 1)
      ((input.look step start).1.length, (input.look step start).2) := by
  unfold look gather
  cases reached : stateAfter? step start input.window with
  | none =>
    obtain ⟨accepted, found, later, current, window, goesOn, stops⟩ := exists_of_refused reached
    have peeked := peek_of_window window
    have run : longest step start input.window = accepted := by
      rw [window, longest_append_cons_of_refused goesOn stops]
    have window' : input.window = [] ++ accepted ++ found :: later := window
    dsimp only
    rw [run, Nat.add_comm]
    exact loop_look_of_window window' goesOn (.stop (lookTurn_of_refused peeked stops))
  | some current =>
    have accepted : stateAfter? step start (input.window ++ [].reverse) = some current := by
      rwa [List.reverse_nil, List.append_nil]
    have window : input.window = [] ++ input.window ++ [] := (List.append_nil _).symm
    obtain ⟨turns, sum, rest⟩ := loop_look_of_drawRun current [] input accepted
    rw [List.reverse_nil, List.append_nil] at rest sum
    dsimp only
    rw [← sum]
    exact loop_look_of_window window reached rest

end Looks

/-! ## Skipping -/

section Skips

variable {condition : Located → Bool}

omit [Source σ] in
theorem consume_consume (input : Lookahead σ) (first second : Nat) :
    (input.consume first).consume second = input.consume (first + second) :=
  congrArg (showing input) List.drop_drop

/-- Looking past consumed characters is looking from the first of the others. -/
theorem current_consume {input : Lookahead σ} {count : Nat} (shown : count ≤ input.window.length) :
    (input.consume count).current =
      ((input.peek count).1, (input.peek count).2.consume count) := by
  rcases Nat.lt_or_eq_of_le shown with within | rfl
  · have found := List.getElem?_eq_getElem within
    have first : (input.consume count).window[0]? = some input.window[count] := by
      rw [consume, List.getElem?_drop, Nat.add_zero, found]
    rw [current, peek_of_shown found, peek_of_shown first]
  · have empty : input.consume input.window.length = input.showing [] :=
      congrArg (showing input) List.drop_length
    have front := input.peek_length []
    have behind := input.peek_length input.window
    rw [current, empty]
    refine front.trans ?_
    rw [show input.peek input.window.length = _ from behind]
    exact congrArg (fun window => (_, input.draw.2.showing window)) List.drop_left.symm

/-- A turn of skipping does what a turn of the look does, and consumes what that accepts. -/
theorem skipTurn_consume {input : Lookahead σ} {count : Nat} (shown : count ≤ input.window.length) :
    skipTurn condition (input.consume count) =
      (lookTurn (whileTrue condition) ((), count, input)).map
        (fun later => later.2.2.consume later.2.1) (fun last => last.2.consume last.1) := by
  rw [skipTurn, current_consume shown, lookTurn]
  rcases input.peek count with ⟨_ | found, seen⟩
  · rfl
  · dsimp only
    rw [Option.filter_some, Option.bind_some, whileTrue]
    cases condition found with
    | true => exact congrArg Sum.inl (consume_consume seen count 1)
    | false => rfl

/-- A character that is accepted is in the window. -/
theorem length_of_lookTurn {state : Type} {step : state → Located → Option state}
    {now later : state × Nat × Lookahead σ} (answer : lookTurn step now = .inl later) :
    later.2.1 ≤ later.2.2.window.length := by
  obtain ⟨current, count, input⟩ := now
  have shown : (input.peek count).1 = (input.peek count).2.window[count]? := rfl
  rw [lookTurn] at answer
  rcases peeked : input.peek count with ⟨_ | found, seen⟩
  · rw [peeked] at answer
    cases answer
  · rw [peeked] at answer shown
    dsimp only at answer
    rw [Option.bind_some] at answer
    cases accepted : step current found with
    | none =>
      rw [accepted] at answer
      cases answer
    | some next =>
      rw [accepted] at answer
      cases answer
      exact (List.getElem?_eq_some_iff.mp shown.symm).1

theorem loop_skip_of_look {now : Unit × Nat × Lookahead σ} {turns : Nat} {last : Nat × Lookahead σ}
    (loop : Loop (lookTurn (whileTrue condition)) now turns last)
    (shown : now.2.1 ≤ now.2.2.window.length) :
    Loop (skipTurn condition) (now.2.2.consume now.2.1) turns (last.2.consume last.1) := by
  induction loop with
  | @stop now last answer =>
    have turn : skipTurn condition (now.2.2.consume now.2.1) = _ := skipTurn_consume shown
    exact .stop (turn.trans (congrArg (Sum.map _ _) answer))
  | @turn now later turns last answer _ ih =>
    have turn : skipTurn condition (now.2.2.consume now.2.1) = _ := skipTurn_consume shown
    exact .turn (turn.trans (congrArg (Sum.map _ _) answer)) (ih (length_of_lookTurn answer))

/-- **Skipping is the loop that consumes one character in each turn,** as long as they satisfy
the condition. -/
theorem loop_skipWhile (input : Lookahead σ) (condition : Located → Bool) :
    Loop (skipTurn condition) input ((input.look (whileTrue condition) ()).1.length + 1)
      (input.skipWhile condition) :=
  loop_skip_of_look (input.loop_look (whileTrue condition) ()) (Nat.zero_le _)

end Skips

end Lookahead

/-! ## Passes -/

/-- The mark of a comment is two characters long. -/
theorem Operator.length_munch_of_comment {first : Char} {second : Option Char}
    (found : ofChars? (munch first second) = some .comment) : (munch first second).length = 2 := by
  have single : ofChar? first ≠ some .comment := by
    unfold ofChar?
    split <;> exact nofun
  unfold munch at found ⊢
  split at found
  · split at found
    · rename_i paired
      rw [if_pos paired]
      rfl
    · exact absurd found single
  · exact absurd found single

namespace Outlook

variable {outlook next : Outlook} {policy : Policy}

/-- Passing takes characters off the front of what is in view. -/
theorem suffix_of_pass {finding : Option Finding} (answer : outlook.pass policy = (finding, next)) :
    next.characters <:+ outlook.characters := by
  have blanks : (outlook.dropWhile fun next => isBlank next.char).characters <:+
    outlook.characters := List.dropWhile_suffix _
  have dropped (rest : Outlook) (count : Nat) : (rest.drop count).characters <:+ rest.characters :=
    List.drop_suffix _ _
  cases outlook.passCase policy with
  | nil _ passed =>
    cases passed.symm.trans answer
    exact List.nil_suffix
  | word _ _ passed =>
    cases passed.symm.trans answer
    exact (dropped _ _).trans blanks
  | literal _ _ _ passed =>
    cases passed.symm.trans answer
    refine List.IsSuffix.trans ?_ blanks
    unfold literal
    dsimp only
    split
    · exact dropped _ _
    · exact dropped _ _
  | operator _ _ _ passed =>
    refine List.IsSuffix.trans ?_ blanks
    rw [passed] at answer
    unfold operator at answer
    dsimp only at answer
    split at answer <;> cases answer
    · exact dropped _ _
    · exact (List.dropWhile_suffix _).trans (dropped _ _)
    · exact dropped _ _

/-- The mark of a comment is taken off, and the rest of its line. -/
theorem length_of_operator_none {start : Located} {later : List Located}
    (shown : outlook.characters = start :: later) (answer : outlook.operator start = (none, next)) :
    next.characters.length + 2 ≤ outlook.characters.length := by
  have second : outlook.characters[1]?.map Located.char = (later.map Located.char).head? := by
    rw [shown, List.head?_map, List.head?_eq_getElem?]
    rfl
  have munched := Operator.length_munch_le start.char (later.map Located.char)
  unfold operator at answer
  rw [second] at answer
  dsimp only at answer
  split at answer <;> cases answer
  rename_i comment
  rw [Operator.length_munch_of_comment comment] at munched ⊢
  have skipped := (outlook.drop 2).length_dropWhile_le fun next =>
    next.position.line == start.position.line
  rw [drop, List.length_drop, shown] at skipped
  rw [shown, List.length_cons]
  rw [List.length_cons] at skipped
  rw [List.length_cons, List.length_map] at munched
  rw [drop, shown]
  omega

/-- **A pass that finds a comment consumes its mark.** -/
theorem length_of_comment (answer : outlook.pass policy = (none, next)) :
    next.characters.length + 2 ≤ outlook.characters.length := by
  refine Nat.le_trans ?_ (outlook.length_dropWhile_le fun next => isBlank next.char)
  cases outlook.passCase policy with
  | nil _ passed => cases passed.symm.trans answer
  | word _ _ passed => cases passed.symm.trans answer
  | literal _ _ _ passed => cases passed.symm.trans answer
  | operator shown _ _ passed => exact length_of_operator_none shown (passed.symm.trans answer)

end Outlook

/-- How many characters a finding consumes at least. -/
def Finding.least : Finding → Nat
  | .lexeme _ _ _ => 1
  | .over _ => 0

namespace Lookahead

variable {σ : Type} [Source σ]

/-- A pass finds in an input what it finds in what is in view. -/
theorem pass_outlook {input next : Lookahead σ} {policy : Policy} {finding : Option Finding}
    (answer : input.pass policy = (finding, next)) :
    input.outlook.pass policy = (finding, next.outlook) := by
  obtain ⟨found, left⟩ := input.pass_eq policy
  rw [answer] at found left
  exact Prod.ext found.symm left.symm

/-- **A scan is the loop of its passes,** and ends. All passes but the last found comments,
and each of them consumed two characters or more. -/
theorem loop_scan (input : Lookahead σ) (policy : Policy) :
    ∃ comments, Loop (passTurn policy) input (comments + 1) (input.scan policy) ∧
      (input.scan policy).2.outlook.characters <:+ input.outlook.characters ∧
      (input.scan policy).2.outlook.characters.length + (input.scan policy).1.least +
        2 * comments ≤ input.outlook.characters.length := by
  fun_induction scan input policy with
  | case1 input finding next answer =>
    have passed := pass_outlook answer
    have suffix := Outlook.suffix_of_pass passed
    refine ⟨0, .stop (by rw [passTurn, answer]), suffix, ?_⟩
    obtain ⟨start, text, kind⟩ | ending := finding
    · exact Outlook.length_lt_of_pass passed (by simp)
    · exact suffix.length_le
  | case2 input next answer ih =>
    have passed := pass_outlook answer
    have mark := Outlook.length_of_comment passed
    obtain ⟨comments, loop, suffix, fewer⟩ := ih
    refine ⟨comments + 1, .turn (by rw [passTurn, answer]) loop,
      suffix.trans (Outlook.suffix_of_pass passed), ?_⟩
    omega

end Lookahead

end Lexis
