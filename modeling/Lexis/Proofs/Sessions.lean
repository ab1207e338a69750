import Lexis.Session
import Lexis.Proofs.Interning

/-!
# What sessions hand out

Pulling a token from a session takes the next lexeme in view and registers its
text (`Session.next_of_lexeme`), or finds the end and keeps it
(`Session.next_of_over`). The session left over does not depend on the table
(`Session.next_session`). With a spelled table the token does not either, except
for which symbol stands for its text (`Session.next_occurrence`).

So draining a session hands out the lexemes in view, one token for each, and
ends as they end (`Session.drain_eq`).
-/

namespace Lexis

set_option autoImplicit false

/-! ## Occurrences -/

/-- What a token says about the program: a text with its kind, and where it
stands. -/
structure Occurrence where
  text : String
  kind : Kind
  line : Nat
  left : Nat
  right : Nat
  deriving DecidableEq

/-- A token without the identity of its symbol. -/
def Token.occurrence (token : Token) : Occurrence :=
  ⟨token.text, token.kind, token.line.toNat, token.left.toNat, token.right.toNat⟩

/-- A lexeme with the kind that its text has by itself. -/
def Lexeme.occurrence (lexeme : Lexeme) : Occurrence where
  text := String.ofList lexeme.text
  kind := Kind.ofText (String.ofList lexeme.text)
  line := lexeme.start.line.toNat
  left := lexeme.start.column.toNat
  right := (lastColumn lexeme.start.column lexeme.text.length).toNat

/-! ## Issuing tokens -/

namespace SymbolTable

/-- The token of a lexeme, whose text is registered. -/
def issue (table : SymbolTable) (lexeme : Lexeme) : Token × SymbolTable :=
  let registered := table.intern (String.ofList lexeme.text) lexeme.kind
  (⟨lexeme.start.column, lastColumn lexeme.start.column lexeme.text.length, lexeme.start.line,
    registered.1⟩, registered.2)

/-- The tokens of some lexemes, whose texts are registered in turn. -/
def issueAll (table : SymbolTable) : List Lexeme → List Token × SymbolTable
  | [] => ([], table)
  | lexeme :: later =>
      let issued := table.issue lexeme
      let rest := issued.2.issueAll later
      (issued.1 :: rest.1, rest.2)

variable {table : SymbolTable} {lexeme : Lexeme}

theorem Spelled.issue (spelled : Spelled table) (looks : lexeme.Spelled) :
    Spelled (table.issue lexeme).2 := by
  simp only [SymbolTable.issue]
  exact spelled.intern looks.kind

theorem text_issue (table : SymbolTable) (lexeme : Lexeme) :
    (table.issue lexeme).1.text = String.ofList lexeme.text := by
  simp only [issue, Token.text, text_intern]

theorem kind_issue (spelled : Spelled table) (looks : lexeme.Spelled) :
    (table.issue lexeme).1.kind = Kind.ofText (String.ofList lexeme.text) := by
  simp only [issue, Token.kind]
  exact kind_intern looks.kind spelled

theorem occurrence_issue (spelled : Spelled table) (looks : lexeme.Spelled) :
    (table.issue lexeme).1.occurrence = lexeme.occurrence := by
  rw [Token.occurrence, text_issue, kind_issue spelled looks]
  simp only [issue, Lexeme.occurrence]

/-- A lexeme looks like no end of input, unless its text is registered. -/
theorem kind_ne_endOfInput (looks : lexeme.Spelled)
    (absent : table.lookup (String.ofList lexeme.text) = none) : lexeme.kind ≠ .endOfInput := by
  have kind := looks.kind
  cases fixed : Kind.ofReserved? (String.ofList lexeme.text) with
  | some fixedKind => exact absurd absent (lookup_ne_none_of_reserved fixed)
  | none =>
    rw [fixed, Option.getD_none] at kind
    rw [kind]
    intro ends
    exact looks.nonempty (String.ofList_eq_empty_iff.mp (Kind.ofText_eq_endOfInput_iff.mp ends))

/-- **The token of a lexeme marks the end if the text is registered so,** and what
texts are registered so does not change. -/
theorem isEnd_issue_eq (table : SymbolTable) (looks : lexeme.Spelled) :
    (table.issue lexeme).1.isEnd = table.marksEnd (String.ofList lexeme.text) ∧
      (table.issue lexeme).2.marksEnd = table.marksEnd := by
  simp only [issue, Token.isEnd, Token.kind]
  refine ⟨?_, funext fun text => table.marksEnd_intern (kind_ne_endOfInput looks) text⟩
  rcases table.intern_cases (String.ofList lexeme.text) lexeme.kind with
    ⟨symbol, found, answer⟩ | ⟨absent, answer, _⟩
  · rw [answer, marksEnd, found, Option.any_some]
  · rw [answer, marksEnd, absent, Option.any_none, beq_eq_false_iff_ne]
    exact kind_ne_endOfInput looks absent

/-- A text that marks the end is registered already. -/
theorem issue_of_marksEnd (table : SymbolTable)
    (marked : table.marksEnd (String.ofList lexeme.text) = true) :
    (table.issue lexeme).2 = table := by
  rcases table.intern_cases (String.ofList lexeme.text) lexeme.kind with
    ⟨symbol, _, answer⟩ | ⟨absent, _⟩
  · simp only [issue, answer]
  · rw [marksEnd, absent] at marked
    cases marked

/-- The token of a lexeme does not mark the end. -/
theorem isEnd_issue (spelled : Spelled table) (looks : lexeme.Spelled) :
    (table.issue lexeme).1.isEnd = false := by
  rw [(table.isEnd_issue_eq looks).1]
  exact spelled.endsPlainly.marksEnd_eq_false (mt String.ofList_eq_empty_iff.mp looks.nonempty)

/-- **A spelled table issues tokens that say what the lexemes say.** -/
theorem map_occurrence_issueAll (spelled : Spelled table) {lexemes : List Lexeme}
    (looks : ∀ lexeme ∈ lexemes, lexeme.Spelled) :
    (table.issueAll lexemes).1.map Token.occurrence = lexemes.map Lexeme.occurrence := by
  induction lexemes generalizing table with
  | nil => rfl
  | cons lexeme later ih =>
    have first := looks lexeme List.mem_cons_self
    have rest := ih (spelled.issue first) fun lexeme member =>
      looks lexeme (List.mem_cons_of_mem _ member)
    simp only [issueAll, List.map_cons, occurrence_issue spelled first, rest]

/-- Lexemes that say the same are issued the same token. -/
theorem issue_congr (table : SymbolTable) {first second : Lexeme} (looks : first.Spelled)
    (looks' : second.Spelled) (same : first.occurrence = second.occurrence) :
    table.issue first = table.issue second := by
  obtain ⟨⟨line, column⟩, text, kind⟩ := first
  obtain ⟨⟨line', column'⟩, text', kind'⟩ := second
  simp only [Lexeme.occurrence, Occurrence.mk.injEq, UInt32.toNat_inj, String.ofList_inj] at same
  obtain ⟨rfl, _, rfl, rfl, _⟩ := same
  have registered := table.intern_congr (looks.kind.trans looks'.kind.symm)
  simp only [issue, registered]

/-- **A table issues the same tokens for lexemes that say the same,** and is the same
afterwards. -/
theorem issueAll_congr (table : SymbolTable) {first second : List Lexeme}
    (looks : ∀ lexeme ∈ first, lexeme.Spelled) (looks' : ∀ lexeme ∈ second, lexeme.Spelled)
    (same : first.map Lexeme.occurrence = second.map Lexeme.occurrence) :
    table.issueAll first = table.issueAll second := by
  induction first generalizing table second with
  | nil => rw [List.map_eq_nil_iff.mp same.symm]
  | cons lexeme later ih =>
    obtain ⟨other, later', rfl, one, rest⟩ := List.map_eq_cons_iff.mp same.symm
    have issued := issue_congr table (looks _ List.mem_cons_self) (looks' _ List.mem_cons_self)
      one.symm
    have more := ih (table.issue lexeme).2
      (fun lexeme member => looks lexeme (List.mem_cons_of_mem _ member))
      (fun lexeme member => looks' lexeme (List.mem_cons_of_mem _ member)) rest.symm
    rw [issueAll, issueAll, ← issued, more]

end SymbolTable

/-! ## Pulling a token -/

namespace Session

variable {σ : Type} [Source σ] {session : Session σ} {input : Lookahead σ}

theorem next_of_lexeme (running : session.ending = none) {start : Position} {text : List Char}
    {kind : Kind} (found : session.input.scan session.policy = (.lexeme start text kind, input))
    (table : SymbolTable) :
    session.next table =
      ⟨(table.issue ⟨start, text, kind⟩).1, { session with input },
        (table.issue ⟨start, text, kind⟩).2, [.token (table.issue ⟨start, text, kind⟩).1]⟩ := by
  simp only [next, running, found, SymbolTable.issue]

theorem next_of_over (running : session.ending = none) {ending : Ending}
    (found : session.input.scan session.policy = (.over ending, input)) (table : SymbolTable) :
    session.next table =
      ⟨endToken { session with input := input.close, ending := some ending } table,
        { session with input := input.close, ending := some ending }, table, ending.events⟩ := by
  simp only [next, running, found]

theorem next_of_ended {ending : Ending} (ended : session.ending = some ending)
    (table : SymbolTable) : session.next table = ⟨session.endToken table, session, table, []⟩ := by
  simp only [next, ended]

/-- **The session after a pull does not depend on the table.** -/
theorem next_session (session : Session σ) (first second : SymbolTable) :
    (session.next first).session = (session.next second).session := by
  cases ended : session.ending with
  | some ending => rw [next_of_ended ended, next_of_ended ended]
  | none =>
    rcases found : session.input.scan session.policy with ⟨⟨start, text, kind⟩ | ending, input⟩
    · rw [next_of_lexeme ended found, next_of_lexeme ended found]
    · rw [next_of_over ended found, next_of_over ended found]

theorem spelled_of_scan {start : Position} {text : List Char} {kind : Kind}
    (found : session.input.scan session.policy = (.lexeme start text kind, input)) :
    Lexeme.Spelled ⟨start, text, kind⟩ := by
  have same := (session.input.scan_eq session.policy).1
  rw [found] at same
  exact Outlook.spelled_of_scan same.symm

/-- **What the token of a pull says does not depend on the table, if that is
spelled.** -/
theorem next_occurrence (session : Session σ) {first second : SymbolTable}
    (spelled : first.Spelled) (spelled' : second.Spelled) :
    (session.next first).token.occurrence = (session.next second).token.occurrence := by
  cases ended : session.ending with
  | some ending =>
    rw [next_of_ended ended, next_of_ended ended]
    rfl
  | none =>
    rcases found : session.input.scan session.policy with ⟨⟨start, text, kind⟩ | ending, input⟩
    · have looks := spelled_of_scan found
      rw [next_of_lexeme ended found, next_of_lexeme ended found]
      exact (SymbolTable.occurrence_issue spelled looks).trans
        (SymbolTable.occurrence_issue spelled' looks).symm
    · rw [next_of_over ended found, next_of_over ended found]
      rfl

/-- A pull leaves the table and answers the end, or issues a lexeme. -/
theorem next_cases (session : Session σ) (table : SymbolTable) :
    ((session.next table).token.symbol = table.endOfInput ∧
        (session.next table).table = table) ∨
      ∃ lexeme : Lexeme, lexeme.Spelled ∧ (session.next table).token = (table.issue lexeme).1 ∧
        (session.next table).table = (table.issue lexeme).2 := by
  cases ended : session.ending with
  | some ending =>
    rw [next_of_ended ended]
    exact .inl ⟨rfl, rfl⟩
  | none =>
    rcases found : session.input.scan session.policy with ⟨⟨start, text, kind⟩ | ending, input⟩
    · refine .inr ⟨⟨start, text, kind⟩, spelled_of_scan found, ?_⟩
      rw [next_of_lexeme ended found]
      generalize table.issue ⟨start, text, kind⟩ = issued
      exact ⟨rfl, rfl⟩
    · rw [next_of_over ended found]
      exact .inl ⟨rfl, rfl⟩

theorem spelled_next (session : Session σ) {table : SymbolTable} (spelled : table.Spelled) :
    (session.next table).table.Spelled := by
  rcases session.next_cases table with ⟨_, same⟩ | ⟨lexeme, looks, _, after⟩
  · rwa [same]
  · rw [after]
    exact spelled.issue looks

/-! ## Pulling all tokens -/

theorem isEnd_last_drain (session : Session σ) (table : SymbolTable) :
    (session.drain table).last.isEnd = true := by
  cases ended : (session.next table).token.isEnd with
  | true => rwa [drain_of_isEnd ended]
  | false =>
    have smaller := size_lt_of_next ended
    rw [drain_of_goesOn ended]
    exact isEnd_last_drain _ _
termination_by session.input.size
decreasing_by exact smaller

/-- **Draining a session issues the lexemes in view, up to the first whose text the
table has as an end of input.** If there is one, the session is left open behind it;
else it ends as the lexemes end. -/
theorem drain_eq_takeWhile {session : Session σ} (running : session.ending = none)
    (table : SymbolTable) :
    let lexemes := session.input.outlook.lexemes session.policy
    let marked := fun lexeme : Lexeme => table.marksEnd (String.ofList lexeme.text)
    let issued := table.issueAll (lexemes.1.takeWhile (!marked ·))
    (session.drain table).tokens = issued.1 ∧ (session.drain table).table = issued.2 ∧
      (session.drain table).session.ending =
        if lexemes.1.any marked then none else some lexemes.2 := by
  obtain ⟨same, left⟩ := session.input.scan_eq session.policy
  rcases found : session.input.scan session.policy with ⟨⟨start, text, kind⟩ | ending, input⟩
  · rw [found] at same left
    have looks := spelled_of_scan found
    obtain ⟨isEnd, kept⟩ := table.isEnd_issue_eq looks
    have pulled := next_of_lexeme running found table
    have stillOpen : Session.ending { session with input } = none := running
    rw [Outlook.lexemes_of_lexeme (Prod.ext same.symm left.symm)]
    dsimp only
    cases marked : table.marksEnd (String.ofList text) with
    | true =>
      have same : (table.issue ⟨start, text, kind⟩).2 = table := table.issue_of_marksEnd marked
      rw [marked] at isEnd
      rw [List.takeWhile_cons_of_neg (by simp [marked]), SymbolTable.issueAll, List.any_cons,
        marked, Bool.true_or, if_pos rfl]
      generalize table.issue ⟨start, text, kind⟩ = issued at isEnd pulled same
      have marks : (session.next table).token.isEnd = true := by rw [pulled, isEnd]
      rw [drain_of_isEnd marks, pulled, same]
      exact ⟨rfl, rfl, stillOpen⟩
    | false =>
      rw [marked] at isEnd
      rw [List.takeWhile_cons_of_pos (by simp [marked]), SymbolTable.issueAll, List.any_cons,
        marked, Bool.false_or]
      generalize table.issue ⟨start, text, kind⟩ = issued at isEnd kept pulled ⊢
      have goesOn : (session.next table).token.isEnd = false := by rw [pulled, isEnd]
      have smaller := Lookahead.size_lt_of_scan found
      have rest := drain_eq_takeWhile stillOpen issued.2
      rw [kept] at rest
      rw [drain_of_goesOn goesOn, pulled]
      exact ⟨congrArg (issued.1 :: ·) rest.1, rest.2⟩
  · rw [found] at same left
    have marks : (session.next table).token.isEnd = true := by
      rw [next_of_over running found]
      rfl
    rw [drain_of_isEnd marks, Outlook.lexemes_of_over (Prod.ext same.symm left.symm),
      next_of_over running found]
    exact ⟨rfl, rfl, rfl⟩
termination_by session.input.size
decreasing_by exact smaller

/-- Where the empty text alone is registered as an end of input, draining a session
issues all lexemes in view and ends as they end. -/
theorem drain_of_endsPlainly {session : Session σ} {table : SymbolTable}
    (running : session.ending = none) (plain : table.EndsPlainly) :
    let lexemes := session.input.outlook.lexemes session.policy
    (session.drain table).tokens = (table.issueAll lexemes.1).1 ∧
      (session.drain table).table = (table.issueAll lexemes.1).2 ∧
      (session.drain table).session.ending = some lexemes.2 := by
  intro lexemes
  have unmarked : ∀ lexeme ∈ lexemes.1, table.marksEnd (String.ofList lexeme.text) = false := by
    intro lexeme member
    have looks := Outlook.spelled_of_lexemes _ _ lexeme member
    exact plain.marksEnd_eq_false (mt String.ofList_eq_empty_iff.mp looks.nonempty)
  have all : lexemes.1.takeWhile (fun lexeme => !table.marksEnd (String.ofList lexeme.text)) =
      lexemes.1 :=
    List.takeWhile_eq_self_iff.mpr fun lexeme member => by simp [unmarked lexeme member]
  have noneMarks :
      lexemes.1.any (fun lexeme => table.marksEnd (String.ofList lexeme.text)) = false :=
    List.any_eq_false.mpr fun lexeme member => by simp [unmarked lexeme member]
  obtain ⟨tokens, left, ended⟩ := drain_eq_takeWhile running table
  rw [all] at tokens left
  rw [noneMarks] at ended
  exact ⟨tokens, left, ended⟩

/-- **Draining a session issues the lexemes in view and ends as they end.** -/
theorem drain_eq {session : Session σ} {table : SymbolTable} (running : session.ending = none)
    (spelled : table.Spelled) :
    (session.drain table).tokens =
        (table.issueAll (session.input.outlook.lexemes session.policy).1).1 ∧
      (session.drain table).session.ending =
        some (session.input.outlook.lexemes session.policy).2 := by
  obtain ⟨tokens, _, ended⟩ := drain_of_endsPlainly running spelled.endsPlainly
  exact ⟨tokens, ended⟩

/-- The table that draining a session leaves has the lexemes in view registered, and
nothing else that is new. -/
theorem table_drain {session : Session σ} {table : SymbolTable} (running : session.ending = none)
    (spelled : table.Spelled) :
    (session.drain table).table =
      (table.issueAll (session.input.outlook.lexemes session.policy).1).2 :=
  (drain_of_endsPlainly running spelled.endsPlainly).2.1

end Session

/-! ## Lexing a whole source -/

/-- **Lexing a source issues the lexemes that are in view at its start.** -/
theorem lexWith_eq {σ : Type} [Source σ] (source : σ) (number : Nat) (policy : Policy) :
    let lexemes := (Lookahead.ofSource source).outlook.lexemes policy
    (lexWith source (.new number) policy).tokens =
        ((SymbolTable.new number).issueAll lexemes.1).1 ∧
      (lexWith source (.new number) policy).diagnostics = lexemes.2.diagnostics ∧
      (lexWith source (.new number) policy).termination = lexemes.2.termination := by
  have running : (Session.new source policy).ending = none := rfl
  obtain ⟨tokens, ended⟩ := Session.drain_eq running (SymbolTable.spelled_new number)
  refine ⟨tokens, ?_, ?_⟩
  · simp only [lexWith, Session.Drained.output, Session.diagnostics, ended]
    rfl
  · simp only [lexWith, Session.Drained.output, Session.termination?, ended]
    rfl

/-- Lexing a source registers the lexemes that are in view at its start. -/
theorem table_lexWith {σ : Type} [Source σ] (source : σ) (number : Nat) (policy : Policy) :
    (lexWith source (.new number) policy).table =
      ((SymbolTable.new number).issueAll
        ((Lookahead.ofSource source).outlook.lexemes policy).1).2 := by
  have running : (Session.new source policy).ending = none := rfl
  exact Session.table_drain running (SymbolTable.spelled_new number)

/-- What lexing a source yields, in one piece. -/
theorem lexWith_eq_mk {σ : Type} [Source σ] (source : σ) (number : Nat) (policy : Policy) :
    lexWith source (.new number) policy =
      let lexemes := (Lookahead.ofSource source).outlook.lexemes policy
      let issued := (SymbolTable.new number).issueAll lexemes.1
      ⟨issued.1, lexemes.2.diagnostics, lexemes.2.termination, issued.2⟩ := by
  have fields (output : Output) :
      output = ⟨output.tokens, output.diagnostics, output.termination, output.table⟩ := rfl
  obtain ⟨tokens, diagnostics, termination⟩ := lexWith_eq source number policy
  rw [fields (lexWith source (.new number) policy), tokens, diagnostics, termination,
    table_lexWith]

end Lexis
