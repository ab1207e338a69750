import Lexis.Lookahead
import Lexis.Proofs.Delivery
import Lexis.Proofs.Placement

/-!
# What a lookahead has in view

What a lookahead can still hand out is its window followed by what its source
will deliver. That is its outlook (`Lookahead.outlook`). Drawing and looking
move characters from the source into the window and leave the outlook as it is
(`Lookahead.outlook_gather`), and consuming takes characters off its front
(`Lookahead.outlook_consume`).

Looking draws far enough to decide its question: the window then either holds an
item that the recogniser refuses or holds all there is
(`Lookahead.decides_gather`). So a look answers what it would answer about all
characters to come, however many of them have been drawn.
-/

namespace Lexis

set_option autoImplicit false

/-! ## Runs of a longer sequence -/

section Runs

variable {state item : Type} {step : state → item → Option state}

/-- Whether the items decide where a run ends in the sequence they begin: one of
them is refused, or there are no more. -/
def Decides (step : state → item → Option state) (start : state) (items all : List item) : Prop :=
  stateAfter? step start items = none ∨ items = all

theorem longest_append_of_refused {start : state} {items : List item}
    (refused : stateAfter? step start items = none) (more : List item) :
    longest step start (items ++ more) = longest step start items := by
  induction items generalizing start with
  | nil => cases refused
  | cons first later ih =>
    rw [List.cons_append, longest, longest]
    rw [stateAfter?] at refused
    cases accepted : step start first with
    | none => rfl
    | some next =>
      simp only [accepted] at refused ⊢
      rw [ih refused]

/-- The run of items that are accepted goes on behind them. -/
theorem longest_append_of_accepted {start current : state} {items : List item}
    (accepted : stateAfter? step start items = some current) (more : List item) :
    longest step start (items ++ more) = items ++ longest step current more := by
  induction items generalizing start with
  | nil =>
    cases accepted
    rfl
  | cons first later ih =>
    rw [stateAfter?] at accepted
    rw [List.cons_append, longest]
    cases one : step start first with
    | none =>
      rw [one] at accepted
      cases accepted
    | some next =>
      rw [one] at accepted
      exact congrArg (first :: ·) (ih accepted)

/-- A run ends in front of the first item that is refused. -/
theorem longest_append_cons_of_refused {start current : state} {accepted : List item} {found : item}
    (goesOn : stateAfter? step start accepted = some current) (stops : step current found = none)
    (later : List item) : longest step start (accepted ++ found :: later) = accepted := by
  rw [longest_append_of_accepted goesOn, longest, stops]
  exact List.append_nil _

/-- Where items are refused, there is a first one. -/
theorem exists_of_refused {start : state} {items : List item}
    (refused : stateAfter? step start items = none) :
    ∃ accepted found later current, items = accepted ++ found :: later ∧
      stateAfter? step start accepted = some current ∧ step current found = none := by
  induction items generalizing start with
  | nil => cases refused
  | cons first later ih =>
    rw [stateAfter?] at refused
    cases one : step start first with
    | none => exact ⟨[], first, later, start, rfl, rfl, one⟩
    | some next =>
      rw [one] at refused
      obtain ⟨accepted, found, rest, current, rfl, goesOn, stops⟩ := ih refused
      refine ⟨first :: accepted, found, rest, current, rfl, ?_, stops⟩
      rw [stateAfter?, one]
      exact goesOn

/-- A run is the beginning of the sequence. -/
theorem longest_begins (step : state → item → Option state) (start : state) (items : List item) :
    longest step start items <+: items := by
  induction items generalizing start with
  | nil => exact List.nil_prefix
  | cons first later ih =>
    rw [longest]
    split
    · exact List.cons_prefix_cons.mpr ⟨rfl, ih _⟩
    · exact List.nil_prefix

/-- Every item of a run has been accepted in some state. -/
theorem exists_isSome_of_mem_longest {start : state} {items : List item} {found : item}
    (member : found ∈ longest step start items) : ∃ current, (step current found).isSome := by
  induction items generalizing start with
  | nil => cases member
  | cons first later ih =>
    rw [longest] at member
    split at member
    · rename_i next accepted
      rcases List.mem_cons.mp member with rfl | member
      · exact ⟨start, Option.isSome_of_eq_some accepted⟩
      · exact ih member
    · cases member

/-- A run that is refused an item is shorter than the sequence. -/
theorem length_longest_lt {start : state} {items : List item}
    (refused : stateAfter? step start items = none) :
    (longest step start items).length < items.length := by
  induction items generalizing start with
  | nil => cases refused
  | cons first later ih =>
    rw [longest]
    rw [stateAfter?] at refused
    cases accepted : step start first with
    | none => exact Nat.zero_lt_succ _
    | some next =>
      simp only [accepted] at refused ⊢
      exact Nat.succ_lt_succ (ih refused)

theorem stateAfter?_append {start : state} (items more : List item) :
    stateAfter? step start (items ++ more) =
      (stateAfter? step start items).bind (stateAfter? step · more) := by
  induction items generalizing start with
  | nil => rfl
  | cons first later ih =>
    rw [List.cons_append, stateAfter?, stateAfter?]
    cases step start first with
    | none => rfl
    | some next => exact ih

theorem longest_whileTrue (condition : item → Bool) (items : List item) :
    longest (whileTrue condition) () items = items.takeWhile condition := by
  induction items with
  | nil => rfl
  | cons first later ih =>
    rw [longest, whileTrue, List.takeWhile_cons]
    cases condition first with
    | true => exact congrArg (first :: ·) ih
    | false => rfl

/-- Counting down leaves what was called for less what there is. -/
theorem stateAfter?_countdown {count : Nat} {items : List item} (enough : items.length ≤ count) :
    stateAfter? countdown count items = some (count - items.length) := by
  induction items generalizing count with
  | nil => rfl
  | cons first later ih =>
    cases count with
    | zero => exact absurd enough (Nat.not_succ_le_zero _)
    | succ count =>
      rw [stateAfter?, countdown, List.length_cons, Nat.succ_sub_succ]
      exact ih (Nat.le_of_succ_le_succ enough)

/-- Counting down refuses an item once there are more than were called for. -/
theorem stateAfter?_countdown_eq_none_iff {count : Nat} {items : List item} :
    stateAfter? countdown count items = none ↔ count < items.length := by
  induction items generalizing count with
  | nil => simp [stateAfter?]
  | cons first later ih =>
    cases count with
    | zero => simp [stateAfter?, countdown]
    | succ count => simpa [stateAfter?, countdown] using ih

variable {start : state} {items all : List item}

theorem Decides.longest_eq (decides : Decides step start items all) (begins : items <+: all) :
    longest step start items = longest step start all := by
  obtain ⟨more, rfl⟩ := begins
  rcases decides with refused | whole
  · exact (longest_append_of_refused refused more).symm
  · rw [← whole]

theorem Decides.getElem?_eq {count : Nat} (decides : Decides countdown count items all)
    (begins : items <+: all) : items[count]? = all[count]? := by
  obtain ⟨more, rfl⟩ := begins
  rcases decides with refused | whole
  · rw [List.getElem?_append_left (stateAfter?_countdown_eq_none_iff.mp refused)]
  · rw [← whole]

/-- What is left after the run is there to be seen, if anything is left. -/
theorem Decides.head?_drop (decides : Decides step start items all) (begins : items <+: all) :
    (items.drop (longest step start items).length).head? =
      (all.drop (longest step start all).length).head? := by
  rw [← decides.longest_eq begins, List.head?_drop, List.head?_drop]
  obtain ⟨more, rfl⟩ := begins
  rcases decides with refused | whole
  · rw [List.getElem?_append_left (length_longest_lt refused)]
  · rw [← whole]

end Runs

/-! ## Drawing -/

/-- The position of the last of some characters, or the one before them if there
are none. -/
def lastPosition (before : Position) (characters : List Located) : Position :=
  characters.foldl (fun _ next => next.position) before

@[simp]
theorem lastPosition_append (before : Position) (first second : List Located) :
    lastPosition before (first ++ second) = lastPosition (lastPosition before first) second :=
  List.foldl_append

/-- The last character of a text that is placed stands behind those before it. -/
theorem lastPosition_locate (position : Position) (place : Place) (before : List Char)
    (char : Char) :
    lastPosition position (locate place (before ++ [char])) = (place.after before).position := by
  rw [locate_append, lastPosition_append]
  rfl

namespace Lookahead

variable {σ : Type} [Source σ]

/-- What is still to be drawn. -/
def toDraw (input : Lookahead σ) : Delivery :=
  if input.drained then ⟨[], none⟩ else Source.deliver input.source

/-- The fault that ends the input, met already or still to be met. -/
def endingFault (input : Lookahead σ) : Option Fault :=
  input.toDraw.fault <|> input.fault

theorem toDraw_of_drained {input : Lookahead σ} (drained : input.drained = true) :
    input.toDraw = ⟨[], none⟩ :=
  if_pos drained

/-- Characters drawn from an input, one after the other, and the input after
them, whose window does not show them yet. -/
structure Draws (input : Lookahead σ) (drawn : List Located) (next : Lookahead σ) : Prop where
  characters : input.toDraw.characters = drawn ++ next.toDraw.characters
  endingFault : next.endingFault = input.endingFault
  window : next.window = input.window
  last : next.last = lastPosition input.last drawn

theorem Draws.trans {input middle next : Lookahead σ} {first second : List Located}
    (before : Draws input first middle) (after : Draws middle second next) :
    Draws input (first ++ second) next where
  characters := by rw [before.characters, after.characters, List.append_assoc]
  endingFault := after.endingFault.trans before.endingFault
  window := after.window.trans before.window
  last := by rw [after.last, before.last, lastPosition_append]

theorem draws_of_draw {input next : Lookahead σ} {drawn : Located}
    (answer : input.draw = (some drawn, next)) : Draws input [drawn] next := by
  unfold draw at answer
  split at answer
  · cases answer
  · rename_i undrained
    split at answer
    · rename_i char source read
      cases answer
      have delivered : input.toDraw = .after [⟨char, Source.position source⟩]
          (Source.deliver source) := by
        rw [toDraw, if_neg undrained, Source.deliver_of_char read]
      have rest : toDraw { input with source, last := Source.position source } =
          Source.deliver source := if_neg undrained
      exact ⟨by rw [delivered, rest]; rfl, by rw [endingFault, endingFault, delivered, rest]; rfl,
        rfl, rfl⟩
    · cases answer
    · cases answer

/-- If nothing is drawn, there is nothing left to draw. -/
theorem draws_of_draw_none {input next : Lookahead σ} (answer : input.draw = (none, next)) :
    Draws input [] next ∧ next.drained = true := by
  unfold draw at answer
  split at answer
  · rename_i drained
    cases answer
    exact ⟨⟨rfl, rfl, rfl, rfl⟩, drained⟩
  · rename_i undrained
    split at answer
    · cases answer
    · rename_i source read
      cases answer
      have delivered : input.toDraw = ⟨[], none⟩ := by
        rw [toDraw, if_neg undrained, Source.deliver_of_ended read]
      exact ⟨⟨by rw [delivered]; rfl, by rw [endingFault, endingFault, delivered]; rfl, rfl, rfl⟩,
        rfl⟩
    · rename_i fault source read
      cases answer
      have delivered : input.toDraw = ⟨[], some fault⟩ := by
        rw [toDraw, if_neg undrained, Source.deliver_of_failed read]
      exact ⟨⟨by rw [delivered]; rfl, by rw [endingFault, endingFault, delivered]; rfl, rfl, rfl⟩,
        rfl⟩

variable {state : Type}

/-- Drawing with a recogniser goes on until it refuses a character or there are
no more. -/
theorem exists_draws_drawRun (step : state → Located → Option state) (current : state)
    (drawn : List Located) (input : Lookahead σ) :
    ∃ added, (drawRun step current drawn input).1 = added.reverse ++ drawn ∧
      Draws input added (drawRun step current drawn input).2 ∧
      (stateAfter? step current added = none ∨
        (drawRun step current drawn input).2.drained = true) := by
  fun_induction drawRun step current drawn input with
  | case1 current drawn input next answer =>
    obtain ⟨draws, drained⟩ := draws_of_draw_none answer
    exact ⟨[], rfl, draws, .inr drained⟩
  | case2 current drawn input char next answer later accepted ih =>
    obtain ⟨added, whole, draws, decided⟩ := ih
    refine ⟨char :: added, by simp [whole], (draws_of_draw answer).trans draws, ?_⟩
    simpa [stateAfter?, accepted] using decided
  | case3 current drawn input char next answer refused =>
    exact ⟨[char], rfl, draws_of_draw answer, .inl (by simp [stateAfter?, refused])⟩

end Lookahead

/-! ## The outlook -/

/-- What can be handed out from an input: characters, the fault that ends them,
and the position of the last character when all have been drawn. -/
structure Outlook where
  characters : List Located
  fault : Option Fault
  last : Position
  deriving DecidableEq

namespace Outlook

/-- What is in view past so many characters. -/
def drop (outlook : Outlook) (count : Nat) : Outlook :=
  { outlook with characters := outlook.characters.drop count }

/-- What is in view from the first character on that fails a condition. -/
def dropWhile (outlook : Outlook) (condition : Located → Bool) : Outlook :=
  { outlook with characters := outlook.characters.dropWhile condition }

theorem drop_length_takeWhile (outlook : Outlook) (condition : Located → Bool) :
    outlook.drop (outlook.characters.takeWhile condition).length = outlook.dropWhile condition := by
  refine congrArg (Outlook.mk · outlook.fault outlook.last) ?_
  exact (congrArg (List.drop _) List.takeWhile_append_dropWhile.symm).trans List.drop_left

end Outlook

namespace Lookahead

variable {σ : Type} [Source σ]

/-- The outlook of an input: its window, and what is still to be drawn. -/
def outlook (input : Lookahead σ) : Outlook where
  characters := input.window ++ input.toDraw.characters
  fault := input.endingFault
  last := lastPosition input.last input.toDraw.characters

theorem outlook_ofSource (source : σ) :
    (ofSource source).outlook =
      ⟨(Source.deliver source).characters, (Source.deliver source).fault,
        lastPosition .origin (Source.deliver source).characters⟩ := by
  have delivered : (ofSource source).toDraw = Source.deliver source := if_neg Bool.false_ne_true
  have fault : (ofSource source).endingFault = (Source.deliver source).fault := by
    rw [endingFault, delivered, Option.orElse_eq_orElse, Option.orElse_eq_or]
    exact Option.or_none
  rw [outlook, fault, delivered]
  rfl

/-- The window is the beginning of the outlook. -/
theorem window_begins (input : Lookahead σ) : input.window <+: input.outlook.characters :=
  List.prefix_append _ _

theorem outlook_of_draws {input next : Lookahead σ} {drawn : List Located}
    (draws : Draws input drawn next) :
    outlook { next with window := input.window ++ drawn } = input.outlook := by
  have rest : toDraw { next with window := input.window ++ drawn } = next.toDraw := rfl
  have fault : endingFault { next with window := input.window ++ drawn } = next.endingFault := rfl
  rw [outlook, outlook, rest, fault, draws.endingFault, draws.characters, lastPosition_append,
    ← draws.last, List.append_assoc]

variable {state : Type}

/-- **Looking changes nothing about what is in view, and it goes on until the
recogniser refuses a character of the window or there are no more to draw.** -/
theorem outlook_gather (input : Lookahead σ) (step : state → Located → Option state)
    (start : state) :
    (input.gather step start).outlook = input.outlook ∧
      (stateAfter? step start (input.gather step start).window = none ∨
        (input.gather step start).drained = true) := by
  unfold gather
  split
  · rename_i refused
    exact ⟨rfl, .inl refused⟩
  · rename_i current reached
    obtain ⟨added, whole, draws, decided⟩ := exists_draws_drawRun step current [] input
    have drawn : (drawRun step current [] input).1.reverse = added := by
      simp [whole]
    dsimp only
    rw [drawn]
    refine ⟨outlook_of_draws draws, decided.imp_left fun refused => ?_⟩
    rw [stateAfter?_append, reached]
    exact refused

/-- When all is drawn, the window is all that is in view. -/
theorem outlook_of_drained {input : Lookahead σ} (drained : input.drained = true) :
    input.outlook = ⟨input.window, input.fault, input.last⟩ := by
  rw [outlook, endingFault, toDraw_of_drained drained, List.append_nil]
  rfl

theorem decides_gather (input : Lookahead σ) (step : state → Located → Option state)
    (start : state) :
    Decides step start (input.gather step start).window input.outlook.characters := by
  obtain ⟨same, decided⟩ := input.outlook_gather step start
  rw [← same]
  exact decided.imp_right fun drained => by rw [outlook_of_drained drained]

/-- The window after looking begins what is in view. -/
theorem window_gather_begins (input : Lookahead σ) (step : state → Located → Option state)
    (start : state) : (input.gather step start).window <+: input.outlook.characters := by
  rw [← (input.outlook_gather step start).1]
  exact window_begins _

theorem outlook_consume {input : Lookahead σ} {count : Nat}
    (shown : count ≤ input.window.length) :
    (input.consume count).outlook = input.outlook.drop count := by
  have window : input.window.drop count ++ input.toDraw.characters =
      (input.window ++ input.toDraw.characters).drop count :=
    (List.drop_append_of_le_length shown).symm
  rw [outlook, show (input.consume count).window = input.window.drop count from rfl,
    show (input.consume count).toDraw = input.toDraw from rfl, window]
  rfl

/-- Peeking answers a character of the outlook. -/
theorem peek_eq (input : Lookahead σ) (count : Nat) :
    (input.peek count).1 = input.outlook.characters[count]? ∧
      (input.peek count).2.outlook = input.outlook :=
  ⟨(input.decides_gather countdown count).getElem?_eq (input.window_gather_begins _ _),
    (input.outlook_gather countdown count).1⟩

/-- A look answers the run of the whole outlook, and the window shows it. -/
theorem look_eq (input : Lookahead σ) (step : state → Located → Option state) (start : state) :
    (input.look step start).1 = longest step start input.outlook.characters ∧
      (input.look step start).2.outlook = input.outlook ∧
      (input.look step start).1.length ≤ (input.look step start).2.window.length :=
  ⟨(input.decides_gather step start).longest_eq (input.window_gather_begins _ _),
    (input.outlook_gather step start).1, length_longest _ _ _⟩

theorem outlook_skipWhile (input : Lookahead σ) (condition : Located → Bool) :
    (input.skipWhile condition).outlook = input.outlook.dropWhile condition := by
  obtain ⟨run, same, shown⟩ := input.look_eq (whileTrue condition) ()
  refine (outlook_consume shown).trans ?_
  rw [same, run, longest_whileTrue, Outlook.drop_length_takeWhile]

/-- After skipping, the window shows the next character, unless all has been
drawn and there is none. -/
theorem window_skipWhile (input : Lookahead σ) (condition : Located → Bool) :
    (input.skipWhile condition).window.head? =
        (input.outlook.dropWhile condition).characters.head? ∧
      ((input.skipWhile condition).window = [] → (input.skipWhile condition).drained = true) := by
  constructor
  · have first := (input.decides_gather (whileTrue condition) ()).head?_drop
      (input.window_gather_begins _ _)
    rw [longest_whileTrue condition input.outlook.characters] at first
    rw [← Outlook.drop_length_takeWhile]
    exact first
  · intro empty
    refine (input.outlook_gather (whileTrue condition) ()).2.resolve_left fun refused => ?_
    exact Nat.not_le.mpr (length_longest_lt refused) (List.drop_eq_nil_iff.mp empty)

end Lookahead

end Lexis
