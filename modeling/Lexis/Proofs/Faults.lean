import Lexis.Lex
import Lexis.Proofs.Reading
import Lexis.Proofs.Sessions

/-!
# Faults cost nothing before them

What ends the characters in view shows only when they are used up. Up to there a
pass finds the same whether the characters just end or end with a fault
(`Outlook.pass_withEnd`), however far it looks ahead: a word, a candidate of a
literal, a second character of an operator and a comment all end at a fault as
they do at the end.

So lexing a stream that fails issues the tokens of its readable text
(`lexWith_ofStream_of_fault`). If lexing that text uses it up, the fault is what
ends the session, and if it stops before, the fault is never told.
-/

namespace Lexis

set_option autoImplicit false

/-- An ending at a text that is no token. -/
def Ending.Lexical (ending : Ending) : Prop :=
  ∃ diagnostic, ending = .stopped diagnostic ∧ diagnostic.kind ≠ .sourceFault

namespace Outlook

/-- The same characters with another end. -/
def withEnd (outlook : Outlook) (fault : Option Fault) (last : Position) : Outlook :=
  ⟨outlook.characters, fault, last⟩

variable {outlook : Outlook} {policy : Policy} (fault : Option Fault) (last : Position)

/-! ## One pass -/

theorem literal_withEnd (outlook : Outlook) (policy : Policy) (start : Located) :
    (outlook.withEnd fault last).literal policy start =
      ((outlook.literal policy start).1, (outlook.literal policy start).2.withEnd fault last) := by
  unfold literal
  dsimp only [withEnd]
  split <;> rfl

theorem operator_withEnd (outlook : Outlook) (start : Located) :
    (outlook.withEnd fault last).operator start =
      ((outlook.operator start).1, (outlook.operator start).2.withEnd fault last) := by
  unfold operator
  dsimp only [withEnd]
  split <;> rfl

theorem literal_goesOn (outlook : Outlook) (policy : Policy) (start : Located) :
    (∀ ending, (outlook.literal policy start).1 = .over ending → ending.Lexical) ∧
      (outlook.literal policy start).2.ending = outlook.ending := by
  unfold literal
  dsimp only
  split
  · exact ⟨nofun, rfl⟩
  · refine ⟨?_, rfl⟩
    rintro ending ⟨⟩
    exact ⟨_, rfl, nofun⟩

theorem operator_goesOn (outlook : Outlook) (start : Located) :
    (∀ ending, (outlook.operator start).1 = some (.over ending) → ending.Lexical) ∧
      (outlook.operator start).2.ending = outlook.ending := by
  unfold operator
  dsimp only
  split
  · refine ⟨?_, rfl⟩
    rintro ending ⟨⟩
    exact ⟨_, rfl, nofun⟩
  · exact ⟨nofun, rfl⟩
  · exact ⟨nofun, rfl⟩

/-- **A pass finds that the characters are used up, or it finds the same with
any end and keeps that end.** -/
theorem pass_withEnd (outlook : Outlook) (policy : Policy) :
    ((outlook.pass policy).1 = some (.over outlook.ending) ∧
        ((outlook.withEnd fault last).pass policy).1 =
          some (.over (outlook.withEnd fault last).ending)) ∨
      ((∀ ending, (outlook.pass policy).1 = some (.over ending) → ending.Lexical) ∧
        (outlook.pass policy).2.ending = outlook.ending ∧
        (outlook.withEnd fault last).pass policy =
          ((outlook.pass policy).1, (outlook.pass policy).2.withEnd fault last)) := by
  have blanks : ((outlook.withEnd fault last).dropWhile fun next => isBlank next.char) =
      (outlook.dropWhile fun next => isBlank next.char).withEnd fault last := rfl
  have same : ((outlook.withEnd fault last).dropWhile fun next => isBlank next.char).characters =
      (outlook.dropWhile fun next => isBlank next.char).characters := rfl
  cases shown : (outlook.dropWhile fun next => isBlank next.char).characters with
  | nil =>
    rw [pass_of_nil policy shown, pass_of_nil policy (same.trans shown)]
    exact .inl ⟨rfl, rfl⟩
  | cons start later =>
    right
    by_cases starts : startsWord start.char
    · rw [pass_of_word policy shown starts, pass_of_word policy (same.trans shown) starts]
      exact ⟨nofun, rfl, rfl⟩
    · by_cases digit : isDigit start.char
      · obtain ⟨finds, keeps⟩ := literal_goesOn
          (outlook.dropWhile fun next => isBlank next.char) policy start
        rw [pass_of_literal policy shown starts digit,
          pass_of_literal policy (same.trans shown) starts digit, blanks, literal_withEnd]
        exact ⟨fun ending ends => finds ending (Option.some.inj ends), keeps, rfl⟩
      · obtain ⟨finds, keeps⟩ := operator_goesOn
          (outlook.dropWhile fun next => isBlank next.char) start
        rw [pass_of_operator policy shown starts digit,
          pass_of_operator policy (same.trans shown) starts digit, blanks, operator_withEnd]
        exact ⟨finds, keeps, rfl⟩

/-! ## All passes -/

/-- Scanning uses up the characters, or it finds the same with any end. -/
theorem scan_withEnd (outlook : Outlook) (policy : Policy) :
    ((outlook.scan policy).1 = .over outlook.ending ∧
        ((outlook.withEnd fault last).scan policy).1 =
          .over (outlook.withEnd fault last).ending) ∨
      ((∀ ending, (outlook.scan policy).1 = .over ending → ending.Lexical) ∧
        (outlook.scan policy).2.ending = outlook.ending ∧
        (outlook.withEnd fault last).scan policy =
          ((outlook.scan policy).1, (outlook.scan policy).2.withEnd fault last)) := by
  fun_induction scan outlook policy with
  | case1 outlook finding next passed =>
    rcases outlook.pass_withEnd fault last policy with ⟨finds, finds'⟩ | ⟨goesOn, keeps, finds'⟩
    · rw [passed] at finds
      rw [scan_of_some (Prod.ext finds' rfl)]
      exact .inl ⟨Option.some.inj finds, rfl⟩
    · rw [passed] at goesOn keeps finds'
      rw [scan_of_some finds']
      exact .inr ⟨fun ending ends => goesOn ending (congrArg some ends), keeps, rfl⟩
  | case2 outlook next passed ih =>
    rcases outlook.pass_withEnd fault last policy with ⟨finds, _⟩ | ⟨_, keeps, finds'⟩
    · rw [passed] at finds
      cases finds
    · rw [passed] at keeps finds'
      rw [scan_of_none finds', ← keeps]
      exact ih

/-- **With another end the same lexemes are in view.** They end as the
characters end, or both times with the same text that is no token. -/
theorem lexemes_withEnd (outlook : Outlook) (policy : Policy) :
    ((outlook.withEnd fault last).lexemes policy).1 = (outlook.lexemes policy).1 ∧
      (((outlook.lexemes policy).2 = outlook.ending ∧
          ((outlook.withEnd fault last).lexemes policy).2 =
            (outlook.withEnd fault last).ending) ∨
        ((outlook.lexemes policy).2.Lexical ∧
          ((outlook.withEnd fault last).lexemes policy).2 = (outlook.lexemes policy).2)) := by
  rcases outlook.scan_withEnd fault last policy with ⟨finds, finds'⟩ | ⟨goesOn, keeps, finds'⟩
  · rw [lexemes_of_over (Prod.ext finds rfl), lexemes_of_over (Prod.ext finds' rfl)]
    exact ⟨rfl, .inl ⟨rfl, rfl⟩⟩
  · rcases found : outlook.scan policy with ⟨⟨start, text, kind⟩ | ending, next⟩
    · have fewer := length_lt_of_scan found
      rw [found] at keeps finds'
      obtain ⟨same, ends⟩ := lexemes_withEnd next policy
      rw [lexemes_of_lexeme found, lexemes_of_lexeme finds', same, ← keeps]
      exact ⟨rfl, ends⟩
    · rw [found] at goesOn finds'
      rw [lexemes_of_over found, lexemes_of_over finds']
      exact ⟨rfl, .inr ⟨goesOn ending rfl, rfl⟩⟩
termination_by outlook.characters.length

end Outlook

/-! ## Streams that fail -/

section Streams

variable {stream : ByteStream} {text : List Char}

/-- What is in view at the start of a stream is what is in view at the start of
its readable text, but for the end. -/
theorem outlook_ofStream (beginning : Utf8.LongestBeginning text stream.readable) :
    (Lookahead.ofSource (LineReader.ofStream stream)).outlook =
      (Lookahead.ofSource (LineReader.ofText (String.ofList text))).outlook.withEnd
        (stream.cause?.map (.reading (Place.start.after text).position))
        (lastPosition .origin (locate .start text)) := by
  rw [Lookahead.outlook_ofSource, Lookahead.outlook_ofSource, LineReader.deliver_ofStream,
    LineReader.deliver_ofText, String.toList_ofList, ← beginning.eq_decode]
  rfl

/-- A text used up ends its session without a fault. -/
theorem ending_ofText (text : String) :
    (Lookahead.ofSource (LineReader.ofText text)).outlook.ending = .exhausted := by
  rw [Lookahead.outlook_ofSource, LineReader.deliver_ofText]
  rfl

/-- A stream that is more than the encoding of its readable text, or that fails,
has a cause to end. -/
theorem exists_cause (beginning : Utf8.LongestBeginning text stream.readable)
    (faulty : Utf8.encode text ≠ stream.readable ∨ stream.failure? ≠ none) :
    ∃ cause, stream.cause? = some cause := by
  refine Option.ne_none_iff_exists'.mp fun clean => ?_
  obtain ⟨empty, failure⟩ := ByteStream.cause?_eq_none_iff.mp clean
  have encoded := Utf8.encode_append_remainder stream.readable
  rw [empty, List.append_nil, ← beginning.eq_decode] at encoded
  exact faulty.elim (absurd encoded) (absurd failure)

end Streams

/-- **A fault costs nothing before it and hides nothing.** Lexing a stream that
is not the encoding of its readable text, or that fails after it, issues the
tokens of that text. If lexing the text uses it up, the fault ends the session
with the one diagnostic, one character past the text. If it stops before, the
session ends with the same diagnostic, and the fault is not told. -/
theorem lexWith_ofStream_of_fault {stream : ByteStream} {text : List Char}
    (beginning : Utf8.LongestBeginning text stream.readable)
    (faulty : Utf8.encode text ≠ stream.readable ∨ stream.failure? ≠ none)
    (fewLines : (lines text).length < 2 ^ 32 - 1)
    (shortLines : ∀ line ∈ splitOn '\n' text, line.length < 2 ^ 32 - 1) (policy : Policy) :
    let read := lexWith (LineReader.ofStream stream) (.new 0) policy
    let whole := lex (String.ofList text) policy
    read.tokens = whole.tokens ∧
      (whole.termination = .exhausted → read.termination = .sourceFault ∧
        ∃ diagnostic, read.diagnostics = [diagnostic] ∧ diagnostic.kind = .sourceFault ∧
          diagnostic.position.line.toNat = 1 + text.count '\n' ∧
          diagnostic.position.column.toNat = 1 + (openLine text).length) ∧
      (whole.termination ≠ .exhausted → read.termination = whole.termination ∧
        ∃ diagnostic, read.diagnostics = [diagnostic] ∧ whole.diagnostics = [diagnostic] ∧
          diagnostic.kind ≠ .sourceFault) := by
  intro read whole
  obtain ⟨lineFits, columnFits⟩ := place_after_fits fewLines shortLines
  obtain ⟨cause, ends⟩ := exists_cause beginning faulty
  obtain ⟨tokens, diagnostics, termination⟩ := lexWith_eq (LineReader.ofStream stream) 0 policy
  obtain ⟨tokens', diagnostics', termination'⟩ :=
    lexWith_eq (LineReader.ofText (String.ofList text)) 0 policy
  rw [outlook_ofStream beginning, ends] at tokens diagnostics termination
  obtain ⟨same, used | ⟨⟨diagnostic, stops, lexical⟩, stops'⟩⟩ := Outlook.lexemes_withEnd
    ((some cause).map (.reading (Place.start.after text).position))
    (lastPosition .origin (locate .start text))
    (Lookahead.ofSource (LineReader.ofText (String.ofList text))).outlook policy
  -- the text is used up, and what comes next is the fault
  · rw [same, ← tokens'] at tokens
    rw [used.2] at diagnostics termination
    rw [used.1, ending_ofText] at termination'
    refine ⟨tokens, fun _ => ⟨termination, _, diagnostics, rfl, ?_, ?_⟩,
      fun stops => absurd termination' stops⟩
    · exact (Place.toNat_line_position lineFits).trans (Place.line_after _ _)
    · exact (Place.toNat_column_position columnFits).trans (Place.column_after _)
  -- the session stops before, and the fault is never met
  · rw [same, ← tokens'] at tokens
    rw [stops', stops] at diagnostics termination
    rw [stops] at diagnostics' termination'
    refine ⟨tokens, fun used => ?_, fun _ => ⟨termination.trans termination'.symm, diagnostic,
      diagnostics, diagnostics', lexical⟩⟩
    exact absurd (termination'.symm.trans used) diagnostic.kind.termination_ne_exhausted

/-- A failure inside what could have become a date. -/
theorem lexWith_ofStream_of_fault_in_date :
    let stream : ByteStream := [.bytes [0x61, 0x0A, 0x31], .interrupted, .bytes [0x2F],
      .failure .directoryRead, .bytes [0x32]]
    let read := lexWith (LineReader.ofStream stream) (.new 0) {}
    read.tokens.map Token.text = ["a", "1", "/"] ∧ read.termination = .sourceFault ∧
      ∃ diagnostic, read.diagnostics = [diagnostic] ∧ diagnostic.kind = .sourceFault ∧
        diagnostic.position.line.toNat = 2 ∧ diagnostic.position.column.toNat = 3 := by
  intro stream read
  have beginning : Utf8.LongestBeginning ['a', '\n', '1', '/'] stream.readable := by
    have text : (Utf8.decode stream.readable).text = ['a', '\n', '1', '/'] := by decide +kernel
    exact text ▸ Utf8.longestBeginning_decode _
  obtain ⟨tokens, used, _⟩ :=
    lexWith_ofStream_of_fault beginning (.inr (by decide)) (by decide) (by decide) {}
  obtain ⟨termination, diagnostic, only, kind, line, column⟩ := used (by decide +kernel)
  have texts : (lex (String.ofList ['a', '\n', '1', '/']) {}).tokens.map Token.text =
      ["a", "1", "/"] := by decide +kernel
  exact ⟨tokens ▸ texts, termination, diagnostic, only, kind, line, column⟩

end Lexis
