import Lexis.Proofs.Tokenizer

/-!
# Writing tokens out and lexing them again

The texts of the tokens of a program, with single spaces between them, are a
program with the same tokens (`lex_respelled`). The program may be any text, and
it may have ended early: what was read of it is read again to the end.

A token stood in a longer text, and that decided where the token ends: digits may
have been split off a dangling separator, and a slash may have stood before a
blank. By itself each is the token that it was (`IsToken.front_eq`), and a space
keeps it by itself (`front_append_blank`). So the texts of any tokens can be put
in a row (`exists_tokenizes_spaced`).
-/

namespace Lexis

set_option autoImplicit false

/-! ## Tokens without their places -/

/-- What a token says apart from where it stands. -/
def Token.spelling (token : Token) : String × Kind :=
  (token.text, token.kind)

/-- What an occurrence says apart from where it stands. -/
def Occurrence.spelling (occurrence : Occurrence) : String × Kind :=
  (occurrence.text, occurrence.kind)

/-- Bounding places changes nothing about texts and kinds. -/
theorem spelling_bounded (transcript : Transcript) :
    transcript.bounded.occurrences.map Occurrence.spelling =
      transcript.occurrences.map Occurrence.spelling :=
  List.map_map

theorem Output.spelling_transcript (output : Output) :
    output.transcript.occurrences.map Occurrence.spelling = output.tokens.map Token.spelling :=
  List.map_map

/-- The texts of the tokens, with single spaces between them. -/
def Output.respelled (output : Output) : String :=
  " ".intercalate (output.tokens.map Token.text)

/-- The texts of a transcript, in a row with single spaces between them. -/
theorem Output.toList_respelled (output : Output) :
    output.respelled.toList =
      [' '].intercalate (output.transcript.occurrences.map fun said => said.text.toList) := by
  rw [respelled, String.toList_intercalate, Output.transcript, List.map_map, List.map_map]
  rfl

/-! ## Tokens in a row -/

section Rows

variable {policy : Policy} {place : Place} {text : List Char} {kind : Kind}

/-- A token is all there is to read of its own text. -/
theorem IsToken.tokenizes (token : IsToken policy text kind) :
    Tokenizes policy place text ⟨[place.occurrence text kind], .exhausted, []⟩ := by
  have found : front policy (text ++ []) = .token text kind := by
    rw [List.append_nil]
    exact token.front_eq
  have rules := Tokenizes.token found (@Tokenizes.ended policy (place.after text))
  rwa [List.append_nil] at rules

/-- A token with a blank behind it comes before what stands behind the blank. -/
theorem IsToken.tokenizes_append_blank (token : IsToken policy text kind) {blank : Char}
    (white : isBlank blank) {later : List Char} {transcript : Transcript}
    (rules : Tokenizes policy ((place.after text).next blank) later transcript) :
    Tokenizes policy place (text ++ blank :: later)
      (transcript.preceded (place.occurrence text kind)) := by
  refine .token ?_ (.blank white rules)
  rw [front_append_blank white token.ne_nil]
  exact token.front_eq

/-- **Tokens with spaces between them are read off one by one, up to the end.** -/
theorem exists_tokenizes_spaced {words : List (List Char × Kind)}
    (tokens : ∀ word ∈ words, IsToken policy word.1 word.2) (place : Place) :
    ∃ transcript, Tokenizes policy place ([' '].intercalate (words.map Prod.fst)) transcript ∧
      transcript.termination = .exhausted ∧ transcript.complaints = [] ∧
      transcript.occurrences.map Occurrence.spelling =
        words.map fun word => (String.ofList word.1, word.2) := by
  induction words generalizing place with
  | nil => exact ⟨_, .ended, rfl, rfl, rfl⟩
  | cons word later ih =>
    have token := tokens word List.mem_cons_self
    have laterTokens : ∀ word ∈ later, IsToken policy word.1 word.2 := by
      intro word member
      exact tokens word (List.mem_cons_of_mem _ member)
    cases later with
    | nil =>
      refine ⟨⟨[place.occurrence word.1 word.2], .exhausted, []⟩, ?_, rfl, rfl, rfl⟩
      rw [List.map_singleton, List.intercalate_singleton]
      exact token.tokenizes
    | cons second more =>
      obtain ⟨rest, rules, ends, quiet, spelled⟩ :=
        ih laterTokens ((place.after word.1).next ' ')
      refine ⟨rest.preceded (place.occurrence word.1 word.2), ?_, ends, quiet, ?_⟩
      · rw [List.map_cons, List.map_cons, List.intercalate_cons_cons, List.append_assoc]
        exact token.tokenizes_append_blank (by decide) rules
      · exact congrArg ((String.ofList word.1, word.2) :: ·) spelled

end Rows

/-- What a transcript says apart from places is made of tokens. -/
theorem Tokenizes.isToken_of_mem {policy : Policy} {place : Place} {text : List Char}
    {transcript : Transcript} (rules : Tokenizes policy place text transcript)
    {occurrence : Occurrence} (member : occurrence ∈ transcript.occurrences) :
    IsToken policy occurrence.text.toList occurrence.kind := by
  obtain ⟨before, word, later, kind, _, token, rfl⟩ := rules.exists_of_mem_occurrences member
  show IsToken policy (String.ofList word).toList kind
  rwa [String.toList_ofList]

/-! ## Lexing again -/

/-- The tokens of a text are tokens by themselves. -/
theorem isToken_of_mem_lex {text : String} {policy : Policy} {occurrence : Occurrence}
    (member : occurrence ∈ (lex text policy).transcript.occurrences) :
    IsToken policy occurrence.text.toList occurrence.kind := by
  rw [transcript_lex_eq_bounded] at member
  obtain ⟨unbounded, shown, rfl⟩ := List.mem_map.mp member
  have token := (tokenizes policy .start text.toList).isToken_of_mem shown
  exact token

/-- **Lexing the texts of tokens again gives the same tokens:** for any text and
any policy, and however lexing the text ended. -/
theorem lex_respelled (text : String) (policy : Policy) :
    let output := lex text policy
    let again := lex output.respelled policy
    again.termination = .exhausted ∧ again.diagnostics = [] ∧
      again.tokens.map Token.spelling = output.tokens.map Token.spelling := by
  intro output again
  let words := output.transcript.occurrences.map fun said => (said.text.toList, said.kind)
  have tokens : ∀ word ∈ words, IsToken policy word.1 word.2 := by
    intro word member
    obtain ⟨occurrence, shown, rfl⟩ := List.mem_map.mp member
    exact isToken_of_mem_lex shown
  obtain ⟨row, rules, ends, quiet, spelled⟩ := exists_tokenizes_spaced tokens .start
  have texts : output.respelled.toList = [' '].intercalate (words.map Prod.fst) := by
    rw [output.toList_respelled, List.map_map]
    rfl
  have said : again.transcript = row.bounded := by
    rw [← rules.tokenize_eq, ← texts]
    exact transcript_lex_eq_bounded output.respelled policy
  refine ⟨?_, ?_, ?_⟩
  · exact (congrArg Transcript.termination said).trans ends
  · have complaints : again.diagnostics.map Diagnostic.complaint = row.bounded.complaints :=
      congrArg Transcript.complaints said
    rw [Transcript.bounded, quiet] at complaints
    exact List.map_eq_nil_iff.mp complaints
  · rw [← again.spelling_transcript, said, spelling_bounded, spelled, ← output.spelling_transcript,
      List.map_map]
    refine List.map_congr_left ?_
    intro occurrence _
    exact Prod.ext String.ofList_toList rfl

/-- Tokens without blanks between them, and a comment. -/
example :
    (lex "if n>=10//ten" {}).respelled = "if n >= 10" ∧
      (lex "if n >= 10" {}).tokens.map Token.spelling =
        [("if", .keyword .ifWord), ("n", .identifier), (">=", .operator .greaterEqual),
          ("10", .integer)] := by
  decide +kernel

end Lexis
