import Lexis.Lex
import Lexis.Proofs.Lifecycle

/-!
# Sessions as iterators

An iterator hands out the tokens of a session one by one and answers nothing where
a token marks the end. Tokens are recognised as such by their kinds, and a kind is
what the table has for a text. So there are two reasons for answering nothing
(`Session.next?_eq_none_iff`): the session is over, or it found a lexeme whose text
somebody has registered as an end of input.

In the first case every later answer is nothing too (`Session.next?_of_isSome`). In
the second the session is still open, and its next answer may well be a token. Then
lexing a whole source stops in the middle of it, without a complaint and as if the
source were used up there (`lexWith_eq_takeWhile`).

Where the empty text alone is registered as an end of input, the second case does
not occur, and both are as they should be (`Session.iterator`). No session gives
another text that kind (`Session.endsPlainly_next`), so this is a condition on
callers alone.
-/

namespace Lexis

set_option autoImplicit false

namespace SymbolTable

variable {table : SymbolTable}

theorem endsPlainly_new (number : Nat) : EndsPlainly (new number) :=
  (spelled_new number).endsPlainly

/-- Registering a text as anything but an end of input keeps the empty text the only
one. -/
theorem EndsPlainly.intern (plain : EndsPlainly table) {text : String} {kind : Kind}
    (other : table.lookup text = none → kind ≠ .endOfInput) :
    EndsPlainly (table.intern text kind).2 := by
  intro symbol member ends
  rcases table.intern_cases text kind with ⟨_, _, answer⟩ | ⟨absent, _, symbols, _⟩
  · rw [answer] at member
    exact plain symbol member ends
  · rw [symbols, List.mem_append, List.mem_singleton] at member
    rcases member with known | rfl
    · exact plain symbol known ends
    · exact absurd ends (other absent)

end SymbolTable

namespace Session

variable {σ : Type} [Source σ]

/-- **A session registers no text as an end of input.** -/
theorem endsPlainly_next (session : Session σ) {table : SymbolTable}
    (plain : table.EndsPlainly) : (session.next table).table.EndsPlainly := by
  rcases session.next_cases table with ⟨_, same⟩ | ⟨lexeme, looks, _, after⟩
  · rwa [same]
  · rw [after]
    simp only [SymbolTable.issue]
    exact plain.intern (SymbolTable.kind_ne_endOfInput looks)

/-- Whether a session is open and what it finds next is a lexeme whose text the table
has as an end of input. -/
def StopsShort (session : Session σ) (table : SymbolTable) : Prop :=
  session.ending = none ∧ ∃ start text kind input,
    session.input.scan session.policy = (.lexeme start text kind, input) ∧
      table.marksEnd (String.ofList text) = true

theorem next?_fst_eq_none_iff (session : Session σ) (table : SymbolTable) :
    (session.next? table).1 = none ↔ (session.next table).token.isEnd = true := by
  rw [next?]
  cases (session.next table).token.isEnd <;> simp

/-- **An iterator answers nothing exactly where the session is over or stops
short.** -/
theorem next?_eq_none_iff (session : Session σ) (table : SymbolTable) :
    (session.next? table).1 = none ↔
      (session.next? table).2.1.termination?.isSome ∨ session.StopsShort table := by
  rw [next?_fst_eq_none_iff]
  show _ ↔ (session.next table).session.termination?.isSome ∨ _
  cases ended : session.ending with
  | some ending =>
    have finished : session.termination?.isSome := by rw [termination?, ended]; rfl
    rw [next_of_ended ended]
    exact ⟨fun _ => .inl finished, fun _ => isEnd_endToken _ _⟩
  | none =>
    rcases found : session.input.scan session.policy with ⟨⟨start, text, kind⟩ | ending, input⟩
    · have isEnd := (table.isEnd_issue_eq (spelled_of_scan found)).1
      have stillOpen : termination? { session with input } = none := by
        rw [termination?, ended]
        rfl
      rw [next_of_lexeme ended found, isEnd, stillOpen]
      constructor
      · exact fun marked => .inr ⟨ended, start, text, kind, input, found, marked⟩
      · rintro (finished | ⟨_, start', text', kind', input', found', marked⟩)
        · cases finished
        · rw [found] at found'
          cases found'
          exact marked
    · rw [next_of_over ended found]
      exact ⟨fun _ => .inl rfl, fun _ => isEnd_endToken _ _⟩

/-- Where the empty text alone is registered as an end of input, no session stops
short. -/
theorem not_stopsShort (session : Session σ) {table : SymbolTable}
    (plain : table.EndsPlainly) : ¬session.StopsShort table := by
  rintro ⟨_, start, text, kind, input, found, marked⟩
  have nonempty := (spelled_of_scan found).nonempty
  rw [plain.marksEnd_eq_false (mt String.ofList_eq_empty_iff.mp nonempty)] at marked
  cases marked

/-- An iterator whose session is over answers nothing, whatever the table. -/
theorem next?_of_isSome {session : Session σ} (ended : session.termination?.isSome)
    (table : SymbolTable) : session.next? table = (none, session, table) := by
  rw [next?, next_of_isSome ended]
  simp only [isEnd_endToken, if_true]

end Session

/-- **Lexing a source stops at the first lexeme whose text the table has as an end of
input.** The tokens are those of the lexemes before it, there is no diagnostic, and
the source passes for used up. -/
theorem lexWith_eq_takeWhile {σ : Type} [Source σ] (source : σ) (table : SymbolTable)
    (policy : Policy) :
    let lexemes := (Lookahead.ofSource source).outlook.lexemes policy
    let marked := fun lexeme : Lexeme => table.marksEnd (String.ofList lexeme.text)
    let output := lexWith source table policy
    output.tokens = (table.issueAll (lexemes.1.takeWhile (!marked ·))).1 ∧
      (lexemes.1.any marked → output.diagnostics = [] ∧ output.termination = .exhausted) := by
  intro lexemes marked output
  have running : (Session.new source policy).ending = none := rfl
  obtain ⟨tokens, _, ended⟩ := Session.drain_eq_takeWhile running table
  refine ⟨tokens, fun short => ?_⟩
  have left : ((Session.new source policy).drain table).session.ending = none :=
    ended.trans (if_pos short)
  simp only [output, lexWith, Session.Drained.output, Session.diagnostics, Session.termination?,
    left]
  exact ⟨rfl, rfl⟩

namespace Session

variable {σ : Type} [Source σ]

/-- **Sessions as iterators.** If the empty text alone is registered as an end of
input, an iterator answers nothing only where its session is over, and from then on
with any table; and lexing a source goes on to its end and tells how the session
ended. -/
theorem iterator (source : σ) (policy : Policy) (tables : List SymbolTable) {table : SymbolTable}
    (plain : table.EndsPlainly) :
    let answer := ((new source policy).after tables).next? table
    let lexemes := (Lookahead.ofSource source).outlook.lexemes policy
    let output := lexWith source table policy
    (answer.1 = none → answer.2.1.termination?.isSome ∧
        ∀ later again, ((answer.2.1.after later).next? again).1 = none) ∧
      ((new source policy).drain table).session.termination? = some output.termination ∧
      output.tokens = (table.issueAll lexemes.1).1 ∧
      output.diagnostics = lexemes.2.diagnostics ∧ output.termination = lexemes.2.termination := by
  intro answer lexemes output
  constructor
  · intro nothing
    have finished : answer.2.1.termination?.isSome :=
      ((next?_eq_none_iff _ table).mp nothing).resolve_right (not_stopsShort _ plain)
    refine ⟨finished, fun later again => ?_⟩
    rw [after_of_isSome finished, next?_of_isSome finished]
  · have running : (new source policy).ending = none := rfl
    obtain ⟨tokens, _, ended⟩ := drain_of_endsPlainly running plain
    simp only [output, lexWith, Drained.output, diagnostics, termination?, ended]
    exact ⟨rfl, tokens, rfl, rfl⟩

/-- A table in which a caller has registered a word as an operator. -/
theorem iterator_registered :
    let table := ((SymbolTable.new 0).intern "x" (.operator .minus)).2
    let output := lexWith (LineReader.ofText "a x @") table {}
    let answer := ((new (LineReader.ofText "a x @") {}).after [table, table]).next? table
    table.EndsPlainly ∧ answer.1 = none ∧
      (∀ later again, ((answer.2.1.after later).next? again).1 = none) ∧
      output.tokens.map Token.kind = [.identifier, .operator .minus] ∧
      output.termination = .illegalCharacter := by
  intro table output answer
  have plain : table.EndsPlainly :=
    (SymbolTable.endsPlainly_new 0).intern fun _ => nofun
  have nothing : answer.1 = none := by decide +kernel
  have law := iterator (LineReader.ofText "a x @") {} [table, table] plain
  exact ⟨plain, nothing, (law.1 nothing).2, by decide +kernel, by decide +kernel⟩

/-- **An iterator that answers nothing in the middle of its source.** A caller has
registered a word as an end of input. The iterator answers nothing there, though its
session is open, and then a token again; and lexing the whole source says that it is
used up, without a word about the illegal character at its end. -/
theorem iterator_stops_short :
    let table := ((SymbolTable.new 0).intern "x" .endOfInput).2
    let first := (new (LineReader.ofText "a x b @") {}).next? table
    let second := first.2.1.next? first.2.2
    let third := second.2.1.next? second.2.2
    let output := lexWith (LineReader.ofText "a x b @") table {}
    second.1 = none ∧ second.2.1.termination? = none ∧ third.1.map Token.text = some "b" ∧
      output.tokens.map Token.text = ["a"] ∧ output.diagnostics = [] ∧
      output.termination = .exhausted ∧ (lex "a x b @" {}).termination = .illegalCharacter := by
  decide +kernel

end Session

end Lexis
