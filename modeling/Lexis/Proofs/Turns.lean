import Lexis.Proofs.Overflows
import Lexis.Proofs.Requests

/-!
# Sessions turn by turn

The program keeps how a session ended and what it reported in two fields, and it goes from one
token to the next in turns (`Lexer.nextToken`). A turn makes one pass over the input. It hands out
a token, or it has skipped a comment and goes around again, or it stops the session, and then the
next turn finds that it is over. A diagnostic is told and kept where it is found, and the end is
told when the session is stopped. As often as it is asked for a token after that, the program
closes its input and registers the empty text.

A call on a session does all of this at once (`Session.pull`). A turn comes to what its pass finds
(`Lexer.pass_eq`), a comment leaves the session open, and closing or registering again changes
nothing. So turns come to what a call yields (`Session.nextToken_lexer`), after any calls
(`Lexer.afterCalls_bind_call`). The loops inside a pass are those of `Lookahead.loop_skipWhile`
and `Lookahead.loop_look`.
-/

namespace Lexis

set_option autoImplicit false

/-- What a pass comes to. -/
inductive Lexer.Step
  | token (token : Token)
  /-- A comment was skipped. -/
  | skip
  /-- The session is over. -/
  | stop (reason : Termination)

/-- A session as the program keeps it, with the table that it registers texts in, and the log. -/
structure Lexer (σ : Type) where
  input : Lookahead σ
  table : SymbolTable
  policy : Policy
  termination : Option Termination
  errors : List Diagnostic
  /-- What was told, the first event in front. -/
  log : List Event

namespace Lexer

variable {σ : Type}

/-- A session at the start of a source. -/
def new (source : σ) (table : SymbolTable) (policy : Policy) : Lexer σ :=
  ⟨.ofSource source, table, policy, none, [], []⟩

/-- Puts an event on the log. -/
def tell (lexer : Lexer σ) (event : Event) : Lexer σ :=
  { lexer with log := lexer.log ++ [event] }

/-- Tells a diagnostic and keeps it. -/
def report (lexer : Lexer σ) (diagnostic : Diagnostic) : Lexer σ :=
  { lexer.tell (.stopped diagnostic) with errors := lexer.errors ++ [diagnostic] }

/-- Tells that the session is over, and why. -/
def terminate (lexer : Lexer σ) (reason : Termination) : Lexer σ :=
  { lexer.tell (.terminated reason) with termination := some reason }

/-- Makes a token, whose text is registered. -/
def issue (lexer : Lexer σ) (start : Located) (text : List Char) (kind : Kind) : Step × Lexer σ :=
  let (symbol, table) := lexer.table.intern (String.ofList text) kind
  let last := lastColumn start.position.column text.length
  (.token ⟨start.position.column, last, start.position.line, symbol⟩, { lexer with table })

/-- The input is used up, and a fault may be the reason. -/
def endOfInput (lexer : Lexer σ) : Step × Lexer σ :=
  match lexer.input.handOverFault with
  | (some fault, input) =>
      let place := fault.position?.getD input.last
      (.stop .sourceFault, { lexer with input }.report (.ofFault fault place))
  | (none, input) => (.stop .exhausted, { lexer with input })

variable [Source σ]

/-- A word. -/
def identifier (lexer : Lexer σ) (start : Located) : Step × Lexer σ :=
  let (run, input) := lexer.input.look (whileTrue fun next => continuesWord next.char) ()
  { lexer with input := input.consume run.length }.issue start (chars run) .identifier

/-- A literal, or what is none. -/
def number (lexer : Lexer σ) (start : Located) : Step × Lexer σ :=
  let (run, input) := lexer.input.look (fun phase next => Literal.Phase.step phase next.char) .whole
  match Literal.judge lexer.policy (chars run) with
  | .accept length kind =>
      { lexer with input := input.consume length }.issue start ((chars run).take length) kind
  | .reject length =>
      let text := String.ofList ((chars run).take length)
      (.stop .illegalLiteral,
        { lexer with input := input.consume length }.report
          ⟨.illegalLiteral, text, start.position⟩)

/-- An operator, or the mark of a comment, or an unknown character. -/
def operator (lexer : Lexer σ) (start : Located) : Step × Lexer σ :=
  let (next, input) := lexer.input.peek 1
  let text := Operator.munch start.char (next.map Located.char)
  let lexer := { lexer with input := input.consume text.length }
  match Operator.ofChars? text with
  | some .comment =>
      let input := lexer.input.skipWhile fun next => next.position.line == start.position.line
      (.skip, { lexer with input })
  | none =>
      (.stop .illegalCharacter,
        lexer.report ⟨.illegalCharacter, String.ofList text, start.position⟩)
  | some mark => lexer.issue start text (.operator mark)

/-- One pass: blanks are skipped, and the character behind them says what comes. -/
def pass (lexer : Lexer σ) : Step × Lexer σ :=
  let input := lexer.input.skipWhile fun next => isBlank next.char
  let lexer := { lexer with input }
  match input.window with
  | [] => lexer.endOfInput
  | start :: _ =>
      if startsWord start.char then lexer.identifier start
      else if isDigit start.char then lexer.number start
      else lexer.operator start

/-- One pass with checks: a read in which lines overflow stops the program. -/
def scan (lexer : Lexer σ) : Except Overflow (Step × Lexer σ) :=
  let (step, next) := lexer.pass
  if Source.overflowed next.input.source then .error .line else .ok (step, next)

/-- The token that marks the end. The input is closed for it and the empty text is registered,
each time. -/
def endToken (lexer : Lexer σ) : Except Overflow (Token × Lexer σ) :=
  let input := lexer.input.close
  match increment? input.last.column with
  | none => .error .column
  | some left =>
      let (symbol, table) := lexer.table.intern "" .endOfInput
      .ok (⟨left, input.last.column, max input.last.line 1, symbol⟩, { lexer with input, table })

/-! ## What a pass finds -/

/-- What becomes of the finding of a pass. -/
def settle (lexer : Lexer σ) : Option Finding → Step × Lexer σ
  | none => (.skip, lexer)
  | some (.lexeme start text kind) =>
      let issued := lexer.table.issue ⟨start, text, kind⟩
      (.token issued.1, { lexer with table := issued.2 })
  | some (.over .exhausted) => (.stop .exhausted, lexer)
  | some (.over (.stopped diagnostic)) =>
      (.stop diagnostic.kind.termination, lexer.report diagnostic)

section Finders

variable (lexer : Lexer σ) (input : Lookahead σ) (start : Located)

omit [Source σ] in
theorem issue_eq (text : List Char) (kind : Kind) :
    lexer.issue start text kind = lexer.settle (some (.lexeme start.position text kind)) := by
  simp only [issue, settle, SymbolTable.issue]

omit [Source σ] in
theorem endOfInput_eq :
    { lexer with input }.endOfInput =
      { lexer with input := input.finish.2 }.settle (some input.finish.1) := by
  unfold endOfInput Lookahead.finish Lookahead.handOverFault
  cases input.fault with
  | none => rfl
  | some fault => rfl

theorem identifier_eq :
    { lexer with input }.identifier start =
      { lexer with input := (input.word start).2 }.settle (some (input.word start).1) := by
  unfold identifier Lookahead.word
  rcases input.look _ () with ⟨run, seen⟩
  exact issue_eq _ start _ _

theorem number_eq :
    { lexer with input }.number start =
      { lexer with input := (input.literal lexer.policy start).2 }.settle
        (some (input.literal lexer.policy start).1) := by
  unfold number Lookahead.literal
  rcases input.look _ Literal.Phase.whole with ⟨run, seen⟩
  dsimp only
  cases Literal.judge lexer.policy (chars run) with
  | accept length kind => exact issue_eq _ start _ _
  | reject length => rfl

theorem operator_eq :
    { lexer with input }.operator start =
      { lexer with input := (input.operator start).2 }.settle (input.operator start).1 := by
  unfold operator Lookahead.operator
  rcases input.peek 1 with ⟨next, seen⟩
  dsimp only
  cases Operator.ofChars? (Operator.munch start.char (next.map Located.char)) with
  | none => rfl
  | some mark =>
    cases mark with
    | comment => rfl
    | _ => exact issue_eq _ start _ _

end Finders

/-- **A pass comes to what it finds.** -/
theorem pass_eq (lexer : Lexer σ) :
    lexer.pass =
      { lexer with input := (lexer.input.pass lexer.policy).2 }.settle
        (lexer.input.pass lexer.policy).1 := by
  unfold pass Lookahead.pass
  generalize lexer.input.skipWhile _ = input
  dsimp only
  cases input.window with
  | nil => exact lexer.endOfInput_eq input
  | cons start later =>
    dsimp only
    split
    · exact lexer.identifier_eq input start
    · split
      · exact lexer.number_eq input start
      · exact lexer.operator_eq input start

omit [Source σ] in
/-- What was found does not change the input any more. -/
theorem input_settle (lexer : Lexer σ) (found : Option Finding) :
    (lexer.settle found).2.input = lexer.input := by
  unfold settle
  split <;> rfl

theorem scan_of_pass {lexer : Lexer σ} {found : Option Finding} {input : Lookahead σ}
    (passed : lexer.input.pass lexer.policy = (found, input)) :
    lexer.scan =
      if Source.overflowed input.source then .error .line
      else .ok ({ lexer with input }.settle found) := by
  rw [scan, pass_eq, passed]
  dsimp only
  rw [input_settle]

/-- A pass that skips a comment leaves the session open and consumes characters. -/
theorem skips_of_scan {lexer next : Lexer σ} (skips : lexer.scan = .ok (.skip, next)) :
    next.termination = lexer.termination ∧ next.input.size < lexer.input.size := by
  rcases passed : lexer.input.pass lexer.policy with ⟨found, input⟩
  rw [scan_of_pass passed] at skips
  split at skips
  · cases skips
  · rcases found with _ | ⟨start, text, kind⟩ | _ | diagnostic
    · cases skips
      exact ⟨rfl, Lookahead.size_lt_of_pass passed (by simp)⟩
    all_goals cases skips

/-! ## Turns -/

/-- How far a session is from its end: it is over, or so many characters may come. -/
def distance (lexer : Lexer σ) : Nat :=
  if lexer.termination.isSome then 0 else lexer.input.size + 1

theorem distance_lt_of_terminate {lexer : Lexer σ} (isOpen : lexer.termination.isSome = false)
    (next : Lexer σ) (reason : Termination) :
    (next.terminate reason).distance < lexer.distance := by
  rw [distance, distance, isOpen]
  exact Nat.succ_pos _

theorem distance_lt_of_skip {lexer next : Lexer σ} (isOpen : lexer.termination.isSome = false)
    (skips : lexer.scan = .ok (.skip, next)) : next.distance < lexer.distance := by
  obtain ⟨same, fewer⟩ := skips_of_scan skips
  rw [distance, distance, same, isOpen]
  exact Nat.succ_lt_succ fewer

/-- Pulls the next token, turn by turn. -/
def nextToken (lexer : Lexer σ) : Except Overflow (Token × Lexer σ) :=
  if _ended : lexer.termination.isSome then
    lexer.endToken
  else
    match _scanned : lexer.scan with
    | .error overflow => .error overflow
    | .ok (.token token, next) => .ok (token, next.tell (.token token))
    | .ok (.skip, next) => nextToken next
    | .ok (.stop reason, next) => nextToken (next.terminate reason)
termination_by lexer.distance
decreasing_by
  · exact distance_lt_of_skip (Bool.not_eq_true _ ▸ _ended) _scanned
  · exact distance_lt_of_terminate (Bool.not_eq_true _ ▸ _ended) _ _

/-- A call for a token, with the table as it is then. The log shows what the call tells. -/
def call (lexer : Lexer σ) (table : SymbolTable) : Except Overflow (Token × Lexer σ) :=
  { lexer with table, log := [] }.nextToken

/-- Some calls for tokens, each with a table. -/
def afterCalls (lexer : Lexer σ) (tables : List SymbolTable) : Except Overflow (Lexer σ) :=
  tables.foldlM (fun lexer table => (lexer.call table).map Prod.snd) lexer

variable {lexer : Lexer σ}

theorem nextToken_of_ended (ended : lexer.termination.isSome) :
    lexer.nextToken = lexer.endToken := by
  rw [nextToken, dif_pos ended]

theorem nextToken_of_open (isOpen : lexer.termination = none) :
    lexer.nextToken = lexer.scan.bind fun
      | (.token token, next) => .ok (token, next.tell (.token token))
      | (.skip, next) => next.nextToken
      | (.stop reason, next) => (next.terminate reason).nextToken := by
  conv => lhs; rw [nextToken]
  rw [dif_neg (by simp [isOpen])]
  split <;> rename_i scanned <;> rw [scanned] <;> rfl

end Lexer

/-! ## Turns and calls -/

/-- What the program keeps of a session. -/
def Session.lexer {σ : Type} (session : Session σ) (table : SymbolTable) (log : List Event) :
    Lexer σ :=
  ⟨session.input, table, session.policy, session.termination?, session.diagnostics, log⟩

/-- What a call hands out and what the program keeps after it, with the log from before in
front. -/
def Pulled.called {σ : Type} (pulled : Pulled σ) (log : List Event) : Token × Lexer σ :=
  (pulled.token, pulled.session.lexer pulled.table (log ++ pulled.events))

/-- Closing an input does not count lines. -/
theorem Lookahead.overflowed_close {σ : Type} [Source σ] (input : Lookahead σ) :
    Source.overflowed input.close.source = Source.overflowed input.source := by
  unfold close
  cases input.closed with
  | true => rfl
  | false => exact Source.overflowed_close input.source

namespace Session

variable {σ : Type} [Source σ] {session : Session σ}

/-- A session that has closed its input if it is over, with no overflow in counting lines. -/
def ClosesAtEnd (session : Session σ) : Prop :=
  session.ending.isSome →
    session.input.close = session.input ∧ Source.overflowed session.input.source = false

theorem checked_of_running {α : Type} (running : session.ending = none) (result : α) :
    session.checked result =
      if Source.overflowed session.input.source then .error .line else .ok result := by
  unfold checked overflow?
  rw [running]
  cases Source.overflowed session.input.source <;> rfl

/-- The token that marks the end is made of the last position and of the empty text. -/
theorem endToken_lexer {ending : Ending} (ended : session.ending = some ending)
    {input : Lookahead σ} (closes : input.close = session.input)
    (counts : Source.overflowed session.input.source = false) (table : SymbolTable)
    (log : List Event) :
    { session.lexer table log with input }.endToken =
      session.checked (session.endToken table, session.lexer table log) := by
  have registered := SymbolTable.intern_of_lookup table.lookup_empty .endOfInput
  have isOver : session.termination?.isSome := by
    rw [termination?, ended]
    rfl
  rw [Lexer.endToken, closes]
  dsimp only
  cases found : increment? session.input.last.column with
  | none =>
    have highest := increment?_eq_none_iff.mp found
    rw [checked_of_some (overflow?_eq_column_iff.mpr ⟨counts, isOver, highest⟩)]
  | some left =>
    have next := increment?_eq_some_iff.mp found
    have below : session.input.last.column.toNat + 1 < 2 ^ 32 := next ▸ left.toNat_lt
    have same : left = nextColumn session.input.last.column :=
      UInt32.toNat_inj.mp (next.trans (toNat_nextColumn below).symm)
    rw [checked_of_none (overflow?_eq_none_iff.mpr ⟨counts, fun _ => below⟩), same]
    dsimp only [lexer]
    rw [registered]
    rfl

/-- A call does what it would do behind a comment that its first pass skips. -/
theorem next_of_skip (running : session.ending = none) {input : Lookahead σ}
    (skipped : session.input.pass session.policy = (none, input)) (table : SymbolTable) :
    session.next table = { session with input }.next table := by
  have again : session.input.scan session.policy = input.scan session.policy :=
    Lookahead.scan_of_none skipped
  have stays : Session.ending { session with input } = none := running
  rcases found : input.scan session.policy with ⟨⟨start, text, kind⟩ | ending, rest⟩
  · rw [next_of_lexeme running (again.trans found)]
    exact (next_of_lexeme stays found table).symm
  · rw [next_of_over running (again.trans found)]
    exact (next_of_over stays found table).symm

/-- What a pass that stops a session finds is told and kept. -/
theorem exists_settle_over (running : session.ending = none) (input : Lookahead σ)
    (ending : Ending) (table : SymbolTable) (log : List Event) :
    let stopped : Session σ := { session with input := input.close, ending := some ending }
    ∃ next : Lexer σ,
      ({ session with input }.lexer table log).settle (some (.over ending)) =
        (.stop ending.termination, next) ∧
      next.terminate ending.termination =
        { stopped.lexer table (log ++ ending.events) with input } := by
  obtain ⟨before, policy, ending⟩ := session
  cases running
  cases ending with
  | exhausted => exact ⟨_, rfl, rfl⟩
  | stopped diagnostic =>
    refine ⟨_, rfl, ?_⟩
    simp only [Lexer.terminate, Lexer.report, Lexer.tell, List.append_assoc]
    rfl

/-- What overflows in a pass has overflowed after the call. -/
theorem overflowed_of_pass (running : session.ending = none) {found : Option Finding}
    {input : Lookahead σ} (passed : session.input.pass session.policy = (found, input))
    (overflows : Source.overflowed input.source = true) (table : SymbolTable) :
    Source.overflowed (session.next table).session.input.source = true := by
  rcases found with _ | ⟨start, text, kind⟩ | ending
  · rw [next_of_skip running passed]
    have now : Source.overflowed (Session.input { session with input }).source = true := overflows
    exact beyond_next Source.hom_overflowed now table
  · rw [next_of_lexeme running (Lookahead.scan_of_some passed)]
    exact overflows
  · rw [next_of_over running (Lookahead.scan_of_some passed)]
    exact input.overflowed_close.trans overflows

/-- **The turns of an open session come to what a call yields.** -/
theorem nextToken_of_open {session : Session σ} (running : session.ending = none)
    (table : SymbolTable) (log : List Event) :
    (session.lexer table log).nextToken = (session.pull table).map (Pulled.called · log) := by
  have isOpen : (session.lexer table log).termination = none := by
    show session.ending.map _ = none
    rw [running]
    rfl
  rcases passed : session.input.pass session.policy with ⟨found, input⟩
  have stays : Session.ending { session with input } = none := running
  have scanned : (session.lexer table log).scan =
      if Source.overflowed input.source then .error .line
      else .ok (({ session with input }.lexer table log).settle found) :=
    Lexer.scan_of_pass passed
  rw [Lexer.nextToken_of_open isOpen, scanned]
  cases overflows : Source.overflowed input.source with
  | true =>
    have overflowed := overflowed_of_pass running passed overflows table
    rw [pull, checked_of_some (overflow?_eq_line_iff.mpr overflowed)]
    rfl
  | false =>
    rcases found with _ | ⟨start, text, kind⟩ | ending
    · have smaller := Lookahead.size_lt_of_pass passed (by simp)
      have later := nextToken_of_open stays table log
      rw [pull, next_of_skip running passed]
      exact later
    · rw [pull, next_of_lexeme running (Lookahead.scan_of_some passed), checked_of_running stays,
        overflows]
      rfl
    · obtain ⟨next, settles, ends⟩ := exists_settle_over running input ending table log
      have counts : Source.overflowed input.close.source = false :=
        input.overflowed_close.trans overflows
      rw [pull, next_of_over running (Lookahead.scan_of_some passed), map_checked]
      rw [if_neg Bool.false_ne_true, settles]
      show (next.terminate ending.termination).nextToken = _
      rw [ends, Lexer.nextToken_of_ended rfl]
      exact endToken_lexer rfl rfl counts table (log ++ ending.events)
termination_by session.input.size
decreasing_by exact smaller

/-- **The turns of a session come to what a call yields.** -/
theorem nextToken_lexer (closes : session.ClosesAtEnd) (table : SymbolTable) (log : List Event) :
    (session.lexer table log).nextToken = (session.pull table).map (Pulled.called · log) := by
  cases ended : session.ending with
  | none => exact nextToken_of_open ended table log
  | some ending =>
    obtain ⟨closed, counts⟩ := closes (by rw [ended]; rfl)
    have isOver : (session.lexer table log).termination.isSome := by
      show (session.ending.map _).isSome
      rw [ended]
      rfl
    rw [Lexer.nextToken_of_ended isOver, pull, map_checked, next_of_ended ended, Pulled.called,
      List.append_nil]
    exact endToken_lexer ended closed counts table log

theorem closesAtEnd_new (source : σ) (policy : Policy) : (new source policy).ClosesAtEnd := by
  intro isOver
  cases isOver

/-- A call that goes through keeps that. -/
theorem ClosesAtEnd.next (closes : session.ClosesAtEnd) {table : SymbolTable}
    (through : (session.next table).session.overflow? = none) :
    (session.next table).session.ClosesAtEnd := by
  intro isOver
  refine ⟨?_, (overflow?_eq_none_iff.mp through).1⟩
  cases ended : session.ending with
  | some ending =>
    rw [next_of_ended ended]
    exact (closes (by rw [ended]; rfl)).1
  | none =>
    rcases found : session.input.scan session.policy with ⟨⟨start, text, kind⟩ | ending, input⟩
    · rw [next_of_lexeme ended found] at isOver
      have stays : session.ending.isSome = true := isOver
      rw [ended] at stays
      cases stays
    · rw [next_of_over ended found]
      exact input.close_close

/-- Turns come to what calls with checks yield, one after the other. -/
theorem afterCalls_lexer (closes : session.ClosesAtEnd) (before : SymbolTable) (log : List Event)
    (tables : List SymbolTable) (table : SymbolTable) :
    ((session.lexer before log).afterCalls tables).bind (·.call table) =
      ((session.afterChecked tables).bind (·.pull table)).map (Pulled.called · []) := by
  induction tables generalizing session before log with
  | nil => exact nextToken_lexer closes table []
  | cons first later ih =>
    have called : (session.lexer before log).call first = _ := nextToken_lexer closes first []
    show ((((session.lexer before log).call first).map Prod.snd).bind (·.afterCalls later)).bind _ =
      ((((session.pull first).map Pulled.session).bind (·.afterChecked later)).bind _).map _
    rw [called, pull]
    cases overflows : (session.next first).session.overflow? with
    | none =>
      rw [checked_of_none overflows]
      exact ih (closes.next overflows) _ _
    | some overflow =>
      rw [checked_of_some overflows]
      rfl

end Session

/-- **The turns of the program come to what calls yield,** on any source and after any calls, each
with any table. The program keeps what the session shows, it tells what the call tells, and it
stops where the call does. -/
theorem Lexer.afterCalls_bind_call {σ : Type} [Source σ] (source : σ) (policy : Policy)
    (first : SymbolTable) (tables : List SymbolTable) (table : SymbolTable) :
    ((new source first policy).afterCalls tables).bind (·.call table) =
      (((Session.new source policy).after tables).pull table).map (Pulled.called · []) := by
  rw [← Session.afterChecked_bind_pull]
  exact Session.afterCalls_lexer (Session.closesAtEnd_new source policy) first [] tables table

end Lexis
