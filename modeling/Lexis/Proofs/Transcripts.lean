import Lexis.Proofs.Placement
import Lexis.Proofs.Sessions
import Mathlib.Data.List.Basic

/-!
# Transcripts

A transcript is what lexing says about a program, without the identities of
symbols: the tokens with their kinds and places, how the session ended, and what
it complained of.

The transcript of a text can be read off the list of its characters, by recursion
on the characters that remain and with nothing but the place of the next one at
hand (`tokenize`). There is no window, no source, no table and no line number to
tell where a comment ends: a comment goes on through the next line feed.
-/

namespace Lexis

set_option autoImplicit false

/-! ## Transcripts -/

/-- A reason for stopping early, the text at fault, and where it stands. -/
structure Complaint where
  kind : Diagnostic.Kind
  text : String
  line : Nat
  column : Nat
  deriving DecidableEq

/-- A diagnostic without a bound on its place. -/
def Diagnostic.complaint (diagnostic : Diagnostic) : Complaint :=
  ⟨diagnostic.kind, diagnostic.text, diagnostic.position.line.toNat,
    diagnostic.position.column.toNat⟩

/-- What lexing says about a program. -/
structure Transcript where
  occurrences : List Occurrence
  termination : Termination
  complaints : List Complaint
  deriving DecidableEq

namespace Transcript

/-- A transcript with an occurrence in front. -/
def preceded (occurrence : Occurrence) (transcript : Transcript) : Transcript :=
  { transcript with occurrences := occurrence :: transcript.occurrences }

/-- The transcript of a text that stops right away. -/
def stopped (place : Place) (kind : Diagnostic.Kind) (text : List Char) : Transcript :=
  ⟨[], kind.termination, [⟨kind, String.ofList text, place.line, place.column⟩]⟩

/-- The transcript of lexemes and how they end. -/
def ofLexemes (lexemes : List Lexeme × Ending) : Transcript :=
  ⟨lexemes.1.map Lexeme.occurrence, lexemes.2.termination,
    lexemes.2.diagnostics.map Diagnostic.complaint⟩

end Transcript

/-- What an output says, without the identities of symbols. -/
def Output.transcript (output : Output) : Transcript :=
  ⟨output.tokens.map Token.occurrence, output.termination,
    output.diagnostics.map Diagnostic.complaint⟩

/-! ## What a transcript determines -/

theorem Diagnostic.eq_of_complaint {first second : Diagnostic}
    (same : first.complaint = second.complaint) : first = second := by
  obtain ⟨kind, text, ⟨line, column⟩⟩ := first
  obtain ⟨kind', text', ⟨line', column'⟩⟩ := second
  simp only [complaint, Complaint.mk.injEq, UInt32.toNat_inj] at same
  obtain ⟨rfl, rfl, rfl, rfl⟩ := same
  rfl

section Determined

variable {σ τ : Type} [Source σ] [Source τ]

/-- The transcript of a source is that of the lexemes in view at its start. -/
theorem transcript_lexWith (source : σ) (number : Nat) (policy : Policy) :
    (lexWith source (.new number) policy).transcript =
      .ofLexemes ((Lookahead.ofSource source).outlook.lexemes policy) := by
  rw [lexWith_eq_mk, Output.transcript,
    SymbolTable.map_occurrence_issueAll (SymbolTable.spelled_new number)
      (Outlook.spelled_of_lexemes _ policy)]
  rfl

/-- **Two sources that are lexed with the same transcript are lexed with the same
output:** which symbol stands for which text is no more than the transcript says. -/
theorem lexWith_eq_of_transcript {source : σ} {other : τ} {number : Nat}
    {policy policy' : Policy}
    (same : (lexWith source (.new number) policy).transcript =
      (lexWith other (.new number) policy').transcript) :
    lexWith source (.new number) policy = lexWith other (.new number) policy' := by
  rw [transcript_lexWith, transcript_lexWith] at same
  obtain ⟨occurrences, termination, complaints⟩ := Transcript.mk.inj same
  have diagnostics := List.map_injective_iff.mpr
    (fun _ _ => Diagnostic.eq_of_complaint) complaints
  have issued := (SymbolTable.new number).issueAll_congr
    (Outlook.spelled_of_lexemes _ policy) (Outlook.spelled_of_lexemes _ policy') occurrences
  rw [lexWith_eq_mk, lexWith_eq_mk]
  dsimp only
  rw [issued, diagnostics, termination]

end Determined

/-! ## The tokenizer -/

/-- A text at a place, whose last column is counted without a bound. -/
def Place.occurrence (place : Place) (text : List Char) (kind : Kind) : Occurrence :=
  ⟨String.ofList text, kind, place.line, place.column, place.column + text.length - 1⟩

/-- The kind of a word: the keyword that is spelled so, if there is one. -/
def Kind.ofWord (word : List Char) : Kind :=
  ((Keyword.all.find? (·.spelling == String.ofList word)).map Kind.keyword).getD .identifier

/-- The longest operator at the front of a text. -/
def Operator.longest? (text : List Char) : Option Operator :=
  (spelled? (text.take 2)).or (spelled? (text.take 1))

theorem Operator.length_spelling_pos (mark : Operator) : 0 < mark.spelling.toList.length := by
  cases mark <;> decide

/-- Reads off the tokens of a text whose first character is at a place. -/
def tokenize (policy : Policy) (place : Place) : List Char → Transcript
  | [] => ⟨[], .exhausted, []⟩
  | first :: later =>
      let text := first :: later
      if isBlank first then
        tokenize policy (place.next first) later
      else if _starts : startsWord first then
        let word := text.takeWhile continuesWord
        (tokenize policy (place.after word) (text.drop word.length)).preceded
          (place.occurrence word (.ofWord word))
      else if _digit : isDigit first then
        match _verdict : Literal.judge policy (Literal.candidate text) with
        | .accept length kind =>
            (tokenize policy (place.after (text.take length)) (text.drop length)).preceded
              (place.occurrence (text.take length) kind)
        | .reject length => .stopped place .illegalLiteral (text.take length)
      else
        match Operator.longest? text with
        | none => .stopped place .illegalCharacter [first]
        | some .comment =>
            tokenize policy ⟨place.line + 1, 1⟩ ((text.dropWhile (· != '\n')).drop 1)
        | some mark =>
            let spelling := mark.spelling.toList
            (tokenize policy (place.after spelling) (text.drop spelling.length)).preceded
              (place.occurrence spelling (.operator mark))
termination_by text => text.length
decreasing_by
  · exact Nat.lt_succ_self _
  · rw [List.length_drop, List.takeWhile_cons_of_pos (continuesWord_of_startsWord _starts)]
    simp only [List.length_cons]
    omega
  · have positive := Literal.length_pos_of_accept _digit _verdict
    rw [List.length_drop, List.length_cons]
    omega
  · have fewer := (List.dropWhile_sublist (l := first :: later) (· != '\n')).length_le
    rw [List.length_drop]
    simp only [List.length_cons] at fewer ⊢
    omega
  · have positive := mark.length_spelling_pos
    rw [List.length_drop, List.length_cons]
    omega

end Lexis
