import Lexis.Lex
import Lexis.Proofs.Sessions

/-!
# Stricter policies

A policy is stricter than another if it makes each choice the same way or makes
it so that more is rejected. On any candidate the stricter of two policies either
gives the verdict of the other or rejects (`Literal.judge_of_le`). Nothing else
depends on the policy. How far a look goes is the matter of a recogniser, and a
word, an operator, a comment and the end are what they are under every policy. So
two scans of the same outlook find and leave the same until the stricter one
meets a literal that it rejects, and with that its session is over
(`Outlook.scan_of_le`).

A whole run under the stricter policy is therefore the run under the other one,
or a beginning of it that a rejected literal cuts short (`Outlook.lexemes_of_le`).
-/

namespace Lexis

set_option autoImplicit false

/-! ## The order of policies -/

/-- Rejecting a dangling separator is stricter than splitting it off. -/
instance : LE Dangling where
  le loose strict := loose = .reject → strict = .reject

instance (loose strict : Dangling) : Decidable (loose ≤ strict) :=
  inferInstanceAs (Decidable (loose = .reject → strict = .reject))

/-- A policy is stricter than another if each of its choices is, where asking for
uniform dates is stricter than not asking. -/
instance : LE Policy where
  le loose strict :=
    loose.dangling ≤ strict.dangling ∧ loose.uniformDates ≤ strict.uniformDates

instance (loose strict : Policy) : Decidable (loose ≤ strict) :=
  inferInstanceAs
    (Decidable (loose.dangling ≤ strict.dangling ∧ loose.uniformDates ≤ strict.uniformDates))

variable {loose strict : Policy} (stricter : loose ≤ strict)

/-! ## Verdicts -/

namespace Literal

include stricter

/-- A dangling separator is treated alike, or it is rejected. -/
theorem dangling_of_le (digits gathered : Nat) :
    dangling strict digits gathered = dangling loose digits gathered ∨
      dangling strict digits gathered = .reject gathered := by
  unfold dangling
  cases chosen : loose.dangling with
  | split => cases strict.dangling <;> simp
  | reject => simp [stricter.1 chosen]

/-- Separators that the stricter policy lets pass, the other one lets pass too. -/
theorem separators_of_le {same : Bool} (passes : (!strict.uniformDates || same) = true) :
    (!loose.uniformDates || same) = true := by
  cases asked : loose.uniformDates with
  | false => rfl
  | true => simpa [stricter.2 asked] using passes

/-- **The stricter policy gives the verdict of the other one or rejects.** -/
theorem judge_of_le (text : List Char) :
    judge strict text = judge loose text ∨ ∃ length, judge strict text = .reject length := by
  have dangles (digits gathered : Nat) :
      dangling strict digits gathered = dangling loose digits gathered ∨
        ∃ length, dangling strict digits gathered = .reject length :=
    (dangling_of_le stricter digits gathered).imp_right fun rejected => ⟨gathered, rejected⟩
  unfold judge
  dsimp only
  cases text.dropWhile isDigit with
  | nil => exact .inl rfl
  | cons mark afterMark =>
    dsimp only
    split
    · exact dangles _ _
    · split
      · exact .inl rfl
      · cases afterMark.dropWhile isDigit with
        | nil => exact dangles _ _
        | cons nextMark afterNext =>
          dsimp only
          split
          · exact dangles _ _
          · split
            · -- A date that the stricter policy accepts has separators that both let pass.
              rename_i accepted
              rw [Bool.and_eq_true] at accepted
              rw [if_pos (by rw [separators_of_le stricter accepted.1, accepted.2]; rfl)]
              exact .inl rfl
            · exact .inr ⟨_, rfl⟩

end Literal

/-! ## Scans -/

/-- Whether a literal was found that the policy rejects. -/
def Finding.RejectsLiteral (finding : Finding) : Prop :=
  ∃ text position, finding = .over (.stopped ⟨.illegalLiteral, text, position⟩)

namespace Outlook

include stricter

theorem literal_of_le (outlook : Outlook) (start : Located) :
    outlook.literal strict start = outlook.literal loose start ∨
      (outlook.literal strict start).1.RejectsLiteral := by
  unfold literal
  dsimp only
  rcases Literal.judge_of_le stricter (Literal.candidate (chars outlook.characters)) with
    same | ⟨length, rejected⟩
  · exact .inl (by rw [same])
  · exact .inr (by rw [rejected]; exact ⟨_, _, rfl⟩)

/-- A pass of the stricter policy is that of the other one or finds a rejected
literal. -/
theorem pass_of_le (outlook : Outlook) :
    outlook.pass strict = outlook.pass loose ∨
      ∃ finding, (outlook.pass strict).1 = some finding ∧ finding.RejectsLiteral := by
  cases shown : (outlook.dropWhile (isBlank ·.char)).characters with
  | nil => exact .inl (by rw [pass_of_nil _ shown, pass_of_nil _ shown])
  | cons start later =>
    by_cases starts : startsWord start.char
    · exact .inl (by rw [pass_of_word _ shown starts, pass_of_word _ shown starts])
    · by_cases digit : isDigit start.char
      · rw [pass_of_literal _ shown starts digit, pass_of_literal _ shown starts digit]
        rcases literal_of_le stricter (outlook.dropWhile (isBlank ·.char)) start with
          same | rejects
        · exact .inl (by rw [same])
        · exact .inr ⟨_, rfl, rejects⟩
      · exact .inl (by
          rw [pass_of_operator _ shown starts digit, pass_of_operator _ shown starts digit])

/-- **A scan of the stricter policy is that of the other one or finds a rejected
literal.** -/
theorem scan_of_le (outlook : Outlook) :
    outlook.scan strict = outlook.scan loose ∨ (outlook.scan strict).1.RejectsLiteral := by
  rcases pass_of_le stricter outlook with same | ⟨finding, found, rejects⟩
  · rcases passed : outlook.pass loose with ⟨_ | finding, next⟩
    · have smaller := length_lt_of_pass passed nofun
      rw [scan_of_none passed, scan_of_none (same.trans passed)]
      exact scan_of_le next
    · exact .inl (by rw [scan_of_some passed, scan_of_some (same.trans passed)])
  · rw [scan_of_some (Prod.ext found rfl)]
    exact .inr rejects
termination_by outlook.characters.length
decreasing_by exact smaller

end Outlook

/-! ## Runs -/

/-- Whether a run is another one, or a beginning of it that stops at a rejected
literal. -/
def CutShort (cut whole : List Lexeme × Ending) : Prop :=
  cut = whole ∨ (cut.1 <+: whole.1 ∧ cut.2.termination = .illegalLiteral)

theorem CutShort.cons {cut whole : List Lexeme × Ending} (lexeme : Lexeme)
    (short : CutShort cut whole) :
    CutShort (lexeme :: cut.1, cut.2) (lexeme :: whole.1, whole.2) := by
  rcases short with rfl | ⟨begins, rejected⟩
  · exact .inl rfl
  · exact .inr ⟨List.cons_prefix_cons.mpr ⟨rfl, begins⟩, rejected⟩

include stricter

/-- **The lexemes in view under the stricter policy are those under the other one,
unless a rejected literal cuts them short.** -/
theorem Outlook.lexemes_of_le (outlook : Outlook) :
    CutShort (outlook.lexemes strict) (outlook.lexemes loose) := by
  rcases scan_of_le stricter outlook with same | ⟨text, position, found⟩
  · rcases scanned : outlook.scan loose with ⟨⟨start, text, kind⟩ | ending, next⟩
    · have smaller := length_lt_of_scan scanned
      rw [lexemes_of_lexeme scanned, lexemes_of_lexeme (same.trans scanned)]
      exact (lexemes_of_le next).cons _
    · rw [lexemes_of_over scanned, lexemes_of_over (same.trans scanned)]
      exact .inl rfl
  · rw [lexemes_of_over (Prod.ext found rfl)]
    exact .inr ⟨List.nil_prefix, rfl⟩
termination_by outlook.characters.length
decreasing_by exact smaller

omit stricter in
/-- The tokens of the first of some lexemes are the first of their tokens. -/
theorem SymbolTable.tokens_begin_issueAll (table : SymbolTable) {first whole : List Lexeme}
    (begins : first <+: whole) : (table.issueAll first).1 <+: (table.issueAll whole).1 := by
  induction first generalizing table whole with
  | nil => exact List.nil_prefix
  | cons lexeme later ih =>
    obtain ⟨more, rfl⟩ := begins
    exact List.cons_prefix_cons.mpr ⟨rfl, ih _ (List.prefix_append later more)⟩

/-- Lexing any source under the stricter policy gives the same output, unless a
rejected literal ends it after the first of the same tokens. -/
theorem lexWith_of_le {σ : Type} [Source σ] (source : σ) (number : Nat) :
    lexWith source (.new number) strict = lexWith source (.new number) loose ∨
      ((lexWith source (.new number) strict).tokens <+:
          (lexWith source (.new number) loose).tokens ∧
        (lexWith source (.new number) strict).termination = .illegalLiteral) := by
  rcases Outlook.lexemes_of_le stricter (Lookahead.ofSource source).outlook with
    same | ⟨begins, rejected⟩
  · exact .inl (by rw [lexWith_eq_mk, lexWith_eq_mk, same])
  · obtain ⟨tokens, _, termination⟩ := lexWith_eq source number strict
    obtain ⟨tokens', _, _⟩ := lexWith_eq source number loose
    rw [tokens, tokens', termination]
    exact .inr ⟨SymbolTable.tokens_begin_issueAll _ begins, rejected⟩

/-- **A stricter policy only cuts the stream short.** The tokens of a text under
the stricter policy are the first of those under the other one. If no rejected
literal ends it, all of the output is the same. And a literal that the other one
rejects does not get past the stricter one. -/
theorem lex_of_le (text : String) :
    (lex text strict).tokens <+: (lex text loose).tokens ∧
      ((lex text strict).termination ≠ .illegalLiteral → lex text strict = lex text loose) ∧
      ((lex text loose).termination = .illegalLiteral →
        (lex text strict).termination = .illegalLiteral) := by
  rcases lexWith_of_le stricter (LineReader.ofText text) 0 with same | ⟨begins, rejected⟩
  · have same' : lex text strict = lex text loose := same
    rw [same']
    exact ⟨List.prefix_rfl, fun _ => rfl, id⟩
  · exact ⟨begins, fun accepted => absurd rejected accepted, fun _ => rejected⟩

omit stricter in
/-- A date with two different separators, behind digits with a dangling one. -/
theorem lex_of_le_date :
    (⟨.split, false⟩ : Policy) ≤ ⟨.split, true⟩ ∧
      (lex "n 3- 1/2-24 m" ⟨.split, true⟩).tokens <+:
        (lex "n 3- 1/2-24 m" ⟨.split, false⟩).tokens ∧
      (lex "n 3- 1/2-24 m" ⟨.split, true⟩).tokens.map Token.text = ["n", "3", "-"] ∧
      (lex "n 3- 1/2-24 m" ⟨.split, true⟩).termination = .illegalLiteral ∧
      (lex "n 3- 1/2-24 m" ⟨.split, false⟩).tokens.map Token.text =
        ["n", "3", "-", "1/2-24", "m"] :=
  ⟨by decide, (lex_of_le (by decide) _).1, by decide +kernel, by decide +kernel,
    by decide +kernel⟩

end Lexis
