import Lexis.Proofs.Lifecycle
import Lexis.Proofs.Loops
import Lexis.Proofs.Overflows
import Mathlib.Algebra.Group.Nat.Defs

/-!
# Sessions make progress

A feed delivers characters until it ends or fails for the first time, if it does
(`Feed.Delivers`). Nothing is asked of the positions it states, and nothing of how it would
go on. A session on it reads no further: below any limit beyond the characters delivered,
the limit is not reached, whatever calls are made (`Session.within_after`).

What a call consumes comes off the front of the characters still in view
(`Session.consumes_next`). A call that leaves the session open has consumed a character for
its token and two for each comment before that. So a session is over after as many calls as
there are characters, and one more (`Session.progress`). Below the highest column, no check
stops the program in a call.
-/

namespace Lexis

set_option autoImplicit false

/-! ## What a feed delivers -/

variable {τ : Type} {feed : Feed τ}

/-- The characters that a feed delivers before it ends or fails for the first time. -/
inductive Feed.Delivers (feed : Feed τ) : τ → List Located → Prop
  | ended {state next : τ} : feed.read state = (.ended, next) → Delivers feed state []
  | failed {state next : τ} {fault : Fault} :
      feed.read state = (.failed fault, next) → Delivers feed state []
  | char {state next : τ} {char : Char} {later : List Located} :
      feed.read state = (.char char, next) → Delivers feed next later →
        Delivers feed state (⟨char, feed.position next⟩ :: later)

namespace Limited

/-- Below its limit, a feed is read as such. -/
theorem read_of_char {state next : τ} {char : Char} (read : feed.read state = (.char char, next))
    (left : Nat) :
    Source.read (⟨state, left + 1⟩ : Limited feed) = (.char char, ⟨next, left⟩) := by
  simp only [Source.read, Limited.read, read]

theorem read_of_ended {state next : τ} (read : feed.read state = (.ended, next)) (left : Nat) :
    Source.read (⟨state, left + 1⟩ : Limited feed) = (.ended, ⟨next, left + 1⟩) := by
  simp only [Source.read, Limited.read, read]

theorem read_of_failed {state next : τ} {fault : Fault}
    (read : feed.read state = (.failed fault, next)) (left : Nat) :
    Source.read (⟨state, left + 1⟩ : Limited feed) = (.failed fault, ⟨next, left + 1⟩) := by
  simp only [Source.read, Limited.read, read]

/-- **A limit beyond the characters delivered takes none of them away.** -/
theorem characters_deliver {state : τ} {characters : List Located}
    (delivers : feed.Delivers state characters) {limit : Nat} (room : characters.length < limit) :
    (Source.deliver (⟨state, limit⟩ : Limited feed)).characters = characters := by
  induction delivers generalizing limit with
  | ended read =>
    obtain ⟨left, rfl⟩ := Nat.exists_eq_succ_of_ne_zero (Nat.ne_of_gt room)
    rw [Source.deliver_of_ended (read_of_ended read left)]
  | failed read =>
    obtain ⟨left, rfl⟩ := Nat.exists_eq_succ_of_ne_zero (Nat.ne_of_gt room)
    rw [Source.deliver_of_failed (read_of_failed read left)]
  | char read _ ih =>
    obtain ⟨left, rfl⟩ := Nat.exists_eq_succ_of_ne_zero (Nat.ne_zero_of_lt room)
    rw [Source.deliver_of_char (read_of_char read left)]
    exact congrArg (_ :: ·) (ih (Nat.lt_of_succ_lt_succ room))

end Limited

namespace Lookahead

/-- An input on a feed that has not come to its limit, and will not. What it has drawn last
is one of the characters delivered. -/
structure Within (characters : List Located) (input : Lookahead (Limited feed)) : Prop where
  below : input.source.left ≠ 0
  toCome : input.drained = false → ∃ later, later <:+ characters ∧
    feed.Delivers input.source.state later ∧ later.length < input.source.left
  last : input.last = .origin ∨ ∃ located ∈ characters, located.position = input.last

theorem within_ofSource {state : τ} {characters : List Located}
    (delivers : feed.Delivers state characters) {limit : Nat} (room : characters.length < limit) :
    (ofSource (⟨state, limit⟩ : Limited feed)).Within characters where
  below := Nat.ne_zero_of_lt room
  toCome _ := ⟨characters, List.suffix_rfl, delivers, room⟩
  last := .inl rfl

/-- **Drawing does not come to the limit.** -/
theorem Within.draw {characters : List Located} {input : Lookahead (Limited feed)}
    (within : input.Within characters) : input.draw.2.Within characters := by
  cases drained : input.drained with
  | true => rwa [draw_of_drained drained]
  | false =>
    obtain ⟨later, suffix, delivers, room⟩ := within.toCome drained
    have below := within.below
    have last := within.last
    obtain ⟨⟨state, _ | left⟩, closed, window, _, fault, position⟩ := input
    · exact absurd rfl below
    cases delivers with
    | ended read =>
      rw [draw_of_ended drained (Limited.read_of_ended read left)]
      exact ⟨below, nofun, last⟩
    | failed read =>
      rw [draw_of_failed drained (Limited.read_of_failed read left)]
      exact ⟨below, nofun, last⟩
    | @char _ next char later read more =>
      have room' : later.length < left := Nat.lt_of_succ_lt_succ room
      rw [draw_of_char drained (Limited.read_of_char read left)]
      refine ⟨Nat.ne_zero_of_lt room', fun _ => ⟨later, ?_, more, room'⟩, .inr ?_⟩
      · exact (List.suffix_cons _ _).trans suffix
      · exact ⟨_, suffix.subset List.mem_cons_self, rfl⟩

/-- Below the highest column, what was drawn last stands below it. -/
theorem Within.column {characters : List Located} {input : Lookahead (Limited feed)}
    (within : input.Within characters)
    (columns : ∀ located ∈ characters, located.position.column.toNat < 2 ^ 32 - 1) :
    input.last.column.toNat < 2 ^ 32 - 1 := by
  rcases within.last with origin | ⟨located, member, position⟩
  · rw [origin]
    decide
  · rw [← position]
    exact columns located member

theorem invariant_within (characters : List Located) :
    Invariant (Within characters : Lookahead (Limited feed) → Prop) where
  draw within := within.draw
  window within _ := ⟨within.below, within.toCome, within.last⟩
  fault within := ⟨within.below, within.toCome, within.last⟩

theorem Within.close {characters : List Located} {input : Lookahead (Limited feed)}
    (within : input.Within characters) : input.close.Within characters := by
  refine ⟨?_, nofun, within.last⟩
  unfold Lookahead.close
  cases input.closed with
  | true => exact within.below
  | false => exact within.below

end Lookahead

/-! ## Calls for tokens -/

namespace Session

/-- **No calls come to the limit.** -/
theorem within_after {characters : List Located} {session : Session (Limited feed)}
    (within : session.input.Within characters) (tables : List SymbolTable) :
    (session.after tables).input.Within characters :=
  after_of_invariant (Lookahead.invariant_within characters) Lookahead.Within.close within tables

variable {σ : Type} [Source σ] {session : Session σ}

/-- **A call for a token consumes characters.** It repeats passes until one finds something,
and each of those before found a comment. -/
theorem consumes_next (running : session.ending = none) (table : SymbolTable) :
    ∃ comments consumed,
      Loop (Lookahead.passTurn session.policy) session.input (comments + 1)
        (session.input.scan session.policy) ∧
      session.input.outlook.characters =
        consumed ++ (session.next table).session.input.outlook.characters ∧
      2 * comments ≤ consumed.length ∧
      ((session.next table).session.ending = none → 2 * comments + 1 ≤ consumed.length) := by
  obtain ⟨comments, loop, ⟨consumed, whole⟩, fewer⟩ := session.input.loop_scan session.policy
  have length := congrArg List.length whole
  rw [List.length_append] at length
  rcases found : session.input.scan session.policy with ⟨⟨start, text, kind⟩ | ending, input⟩
  · rw [found] at fewer length whole loop
    rw [next_of_lexeme running found]
    simp only [Finding.least] at fewer length
    exact ⟨comments, consumed, loop, whole.symm, by omega, fun _ => by omega⟩
  · rw [found] at fewer length loop
    rw [next_of_over running found]
    have nothing : input.close.outlook.characters = [] := by
      rw [Lookahead.outlook_of_drained rfl]
      rfl
    refine ⟨comments, session.input.outlook.characters, loop, ?_, by omega, nofun⟩
    rw [nothing, List.append_nil]

/-- A session that is open was open before. -/
theorem open_of_after (tables : List SymbolTable) (running : (session.after tables).ending = none) :
    session.ending = none := by
  cases found : session.ending with
  | none => rfl
  | some ending =>
    have ended : session.termination?.isSome := by rw [termination?, found]; rfl
    rw [after_of_isSome ended, found] at running
    cases running

/-- **As long as a session is open, each call has consumed a character.** -/
theorem consumes_after (tables : List SymbolTable)
    (running : (session.after tables).ending = none) :
    ∃ consumed, session.input.outlook.characters =
        consumed ++ (session.after tables).input.outlook.characters ∧
      tables.length ≤ consumed.length := by
  induction tables generalizing session with
  | nil => exact ⟨[], rfl, Nat.le_refl _⟩
  | cons table later ih =>
    have stillOpen : (session.next table).session.ending = none := open_of_after later running
    obtain ⟨comments, first, _, whole, _, takes⟩ :=
      consumes_next (open_of_after (table :: later) running) table
    obtain ⟨consumed, rest, counted⟩ := ih running
    have one := takes stillOpen
    refine ⟨first ++ consumed, ?_, ?_⟩
    · rw [whole, rest, List.append_assoc]
      rfl
    · rw [List.length_append, List.length_cons]
      omega

/-- **Scanning makes progress.** A feed delivers some characters, at any positions, before it
ends or fails for the first time. Take any session on it and any calls, each with any table.
They come to no limit beyond these characters, and do what they do below any other. As long
as the session is open, each call has consumed a character, so there were no more calls than
characters. Every further call ends: its scan is a loop of passes, and each pass but the last
consumes a comment of two characters or more. So do the loops inside of a pass, which look at
one character more in each turn. Where no character stands in the highest column, the call
returns with checks as well. -/
theorem progress (feed : Feed τ) (state : τ) {characters : List Located}
    (delivers : feed.Delivers state characters) {limit : Nat} (room : characters.length < limit)
    (policy : Policy) (tables : List SymbolTable) :
    let source : Limited feed := ⟨state, limit⟩
    let session := (new source policy).after tables
    session.input.source.left ≠ 0 ∧
      (∀ more, (new (source.raise more) policy).after tables =
        session.map (Limited.raise more)) ∧
      (session.termination? = none →
        tables.length ≤ characters.length ∧
        (∃ consumed, characters = consumed ++ session.input.outlook.characters ∧
          tables.length ≤ consumed.length) ∧
        ∀ table, ∃ comments consumed,
          let pulled := session.next table
          Loop (Lookahead.passTurn session.policy) session.input (comments + 1)
              (session.input.scan session.policy) ∧
            session.input.outlook.characters =
              consumed ++ pulled.session.input.outlook.characters ∧
            2 * comments ≤ consumed.length ∧
            (pulled.session.termination? = none → 2 * comments + 1 ≤ consumed.length)) ∧
      (∀ (input : Lookahead (Limited feed)) (condition : Located → Bool),
        Loop (Lookahead.skipTurn condition) input
          ((input.look (whileTrue condition) ()).1.length + 1) (input.skipWhile condition)) ∧
      (∀ (input : Lookahead (Limited feed)) {phase : Type}
          (step : phase → Located → Option phase) (start : phase),
        Loop (Lookahead.lookTurn step) (start, 0, input) ((input.look step start).1.length + 1)
          ((input.look step start).1.length, (input.look step start).2)) ∧
      ((∀ located ∈ characters, located.position.column.toNat < 2 ^ 32 - 1) →
        (nextColumn session.input.last.column).toNat = session.input.last.column.toNat + 1 ∧
          ∀ table, session.pull table = .ok (session.next table)) := by
  intro source session
  have start : (new source policy).input.Within characters :=
    Lookahead.within_ofSource delivers room
  have within : session.input.Within characters := within_after start tables
  have shown : characters = (new source policy).input.outlook.characters := by
    rw [← Limited.characters_deliver delivers room]
    exact (congrArg Outlook.characters (Lookahead.outlook_ofSource source)).symm
  have isOpen {session : Session (Limited feed)} (running : session.termination? = none) :
      session.ending = none := Option.map_eq_none_iff.mp running
  refine ⟨within.below, fun more => after_map (Limited.hom_raise feed more) _ tables within.below,
    fun running => ?_, fun input => input.loop_skipWhile, fun input _ => input.loop_look,
    fun columns => ?_⟩
  · obtain ⟨consumed, whole, counted⟩ := consumes_after tables (isOpen running)
    refine ⟨?_, ⟨consumed, shown.trans whole, counted⟩, fun table => ?_⟩
    · rw [shown, whole, List.length_append]
      exact Nat.le_add_right_of_le counted
    · obtain ⟨comments, consumed, loop, whole, pairs, one⟩ := consumes_next (isOpen running) table
      exact ⟨comments, consumed, loop, whole, pairs, fun running => one (isOpen running)⟩
  · refine ⟨?_, fun table => checked_eq_ok_iff.mpr (overflow?_eq_none_iff.mpr ⟨rfl, fun _ => ?_⟩)⟩
    · exact toNat_nextColumn (Nat.add_lt_of_lt_sub (within.column columns))
    · have after : (session.next table).session.input.Within characters :=
        next_of_invariant (Lookahead.invariant_within characters) Lookahead.Within.close within
          table
      exact Nat.add_lt_of_lt_sub (after.column columns)

/-- A feed that states one position for all its characters. It fails behind a comment, and
would go on without end. -/
theorem progress_constant_position :
    let feed : Feed Nat :=
      ⟨fun count =>
          (if count = 3 then .failed (.opening "" .noSuchFile)
            else .char (if count = 0 then 'n' else '/'), count + 1),
        fun _ => ⟨1, 1⟩, id⟩
    let characters : List Located := [⟨'n', 1, 1⟩, ⟨'/', 1, 1⟩, ⟨'/', 1, 1⟩]
    let session := (new (⟨0, 4⟩ : Limited feed) {}).after [.new 0]
    feed.Delivers 0 characters ∧ session.termination? = none ∧
      session.input.source.left ≠ 0 ∧
      (∃ consumed, characters = consumed ++ session.input.outlook.characters ∧
        1 ≤ consumed.length) ∧
      (session.next (.new 0)).session.termination? = some .sourceFault := by
  intro feed characters session
  have delivers : feed.Delivers 0 characters := .char rfl (.char rfl (.char rfl (.failed rfl)))
  have running : session.termination? = none := by decide +kernel
  have room : characters.length < 4 := by decide
  obtain ⟨below, _, goesOn, _⟩ := progress feed 0 delivers room {} [.new 0]
  exact ⟨delivers, running, below, (goesOn running).2.1, by decide +kernel⟩

end Session

end Lexis
