import Lexis.Lex
import Lexis.Proofs.Grammar
import Lexis.Proofs.Reading

/-!
# Lexing is tokenizing a list of characters

Lexing a text comes to what the tokenizer reads off the list of its characters
(`transcript_lex`), for every policy and every text whose places 32 bits can
hold. Each step of the tokenizer is a pass over the characters in view, which are
the remaining ones at their places: blanks are dropped one by one or all at once,
a comment ends where the line number changes, and the kinds that the table
answers are those of the spellings.

Where a text is longer, lexing without checks still says the same about it, with
each place bounded to 32 bits (`transcript_lex_eq_bounded`). Texts and kinds do
not depend on places, and two lines in a row have different numbers even where
numbers wrap.
-/

namespace Lexis

set_option autoImplicit false

/-! ## Places that fit -/

/-- Whether the places of all characters of a text fit in 32 bits, with a column
to spare behind each that is no line feed. -/
def Fits (place : Place) (text : List Char) : Prop :=
  ∀ before char later, text = before ++ char :: later →
    (place.after before).line < 2 ^ 32 ∧ (place.after before).column < 2 ^ 32 ∧
      (char ≠ '\n' → (place.after before).column + 1 < 2 ^ 32)

theorem Fits.append {place : Place} {first second : List Char}
    (fits : Fits place (first ++ second)) : Fits (place.after first) second := by
  rintro before char later rfl
  have whole := fits (first ++ before) char later (List.append_assoc _ _ _).symm
  rwa [Place.after_append] at whole

/-- The place of a first character fits. -/
theorem Fits.first {place : Place} {first : Char} {later : List Char}
    (fits : Fits place (first :: later)) : place.line < 2 ^ 32 ∧ place.column < 2 ^ 32 := by
  obtain ⟨line, column, _⟩ := fits [] first later rfl
  exact ⟨line, column⟩

theorem Fits.tail {place : Place} {first : Char} {later : List Char}
    (fits : Fits place (first :: later)) : Fits (place.next first) later := by
  have whole : Fits place ([first] ++ later) := fits
  exact whole.append

/-- The columns of a text on one line fit together with the one behind them. -/
theorem Fits.column_add_length_lt {place : Place} {text rest : List Char}
    (fits : Fits place (text ++ rest)) (nonempty : text ≠ []) (oneLine : '\n' ∉ text) :
    place.column + text.length < 2 ^ 32 := by
  obtain ⟨before, char, rfl⟩ := (List.eq_nil_or_concat' text).resolve_left nonempty
  rw [List.mem_append, not_or, List.mem_singleton] at oneLine
  have spare := (fits before char rest (List.append_assoc _ _ _)).2.2 (Ne.symm oneLine.2)
  rw [Place.after_of_not_mem oneLine.1] at spare
  rw [List.length_append, List.length_singleton]
  exact spare

/-! ## Bounded places -/

/-- An occurrence with its place in 32 bits: lines wrap, and columns stay at the
last one. -/
def Occurrence.bounded (occurrence : Occurrence) : Occurrence :=
  let left := min occurrence.left (2 ^ 32 - 1)
  { occurrence with
    line := occurrence.line % 2 ^ 32
    left
    right := min (left + occurrence.text.length) (2 ^ 32 - 1) - 1 }

/-- A complaint with its place in 32 bits. -/
def Complaint.bounded (complaint : Complaint) : Complaint :=
  { complaint with
    line := complaint.line % 2 ^ 32
    column := min complaint.column (2 ^ 32 - 1) }

/-- A transcript with its places in 32 bits. -/
def Transcript.bounded (transcript : Transcript) : Transcript :=
  { transcript with
    occurrences := transcript.occurrences.map Occurrence.bounded
    complaints := transcript.complaints.map Complaint.bounded }

theorem toNat_lastColumn (first : UInt32) (length : Nat) :
    (lastColumn first length).toNat = min (first.toNat + length) (2 ^ 32 - 1) - 1 := by
  have bound : min (first.toNat + length) (2 ^ 32 - 1) - 1 < UInt32.size := by
    show _ < 2 ^ 32
    omega
  rw [lastColumn, toNat_ofNatClamp, UInt32.toNat_ofNat_of_lt' bound]

/-- A lexeme says the same as an occurrence with a bounded place. -/
theorem occurrence_position {place : Place} {text : List Char} {kind : Kind} (looks : Kind)
    (spelled : Kind.ofText (String.ofList text) = kind) :
    (Lexeme.mk place.position text looks).occurrence = (place.occurrence text kind).bounded := by
  rw [Lexeme.occurrence, spelled, toNat_lastColumn]
  simp only [Place.position, toNat_ofNatClamp, UInt32.toNat_ofNat', Place.occurrence,
    Occurrence.bounded, String.length_ofList]

/-- A diagnostic says the same as a complaint with a bounded place. -/
theorem ofLexemes_stopped (place : Place) (kind : Diagnostic.Kind) (text : List Char) :
    Transcript.ofLexemes ([], .stopped ⟨kind, String.ofList text, place.position⟩) =
      (Transcript.stopped place kind text).bounded := by
  simp only [Transcript.ofLexemes, Transcript.stopped, Transcript.bounded, Complaint.bounded,
    Ending.termination, Ending.diagnostics, Diagnostic.complaint, Place.position,
    toNat_ofNatClamp, UInt32.toNat_ofNat', List.map_nil, List.map_cons]

/-- An occurrence whose place fits, with a column to spare behind it, is not changed
by bounds. -/
theorem Place.bounded_occurrence {place : Place} {text : List Char} (kind : Kind)
    (line : place.line < 2 ^ 32) (column : place.column + text.length < 2 ^ 32) :
    (place.occurrence text kind).bounded = place.occurrence text kind := by
  have left : min place.column (2 ^ 32 - 1) = place.column := by omega
  have right : min (place.column + text.length) (2 ^ 32 - 1) = place.column + text.length := by
    omega
  simp only [Place.occurrence, Occurrence.bounded, String.length_ofList, Nat.mod_eq_of_lt line,
    left, right]

theorem Fits.bounded_occurrence {place : Place} {text rest : List Char} {kind : Kind}
    (fits : Fits place (text ++ rest)) (nonempty : text ≠ []) (oneLine : '\n' ∉ text) :
    (place.occurrence text kind).bounded = place.occurrence text kind := by
  have bound := fits.column_add_length_lt nonempty oneLine
  obtain ⟨first, later, rfl⟩ := List.exists_cons_of_ne_nil nonempty
  exact Place.bounded_occurrence kind fits.first.1 bound

/-- A complaint whose place fits is not changed by bounds. -/
theorem Complaint.bounded_eq {complaint : Complaint} (line : complaint.line < 2 ^ 32)
    (column : complaint.column < 2 ^ 32) : complaint.bounded = complaint := by
  have column' : min complaint.column (2 ^ 32 - 1) = complaint.column := by omega
  simp only [bounded, Nat.mod_eq_of_lt line, column']

/-- **The transcript of a text whose places fit is not changed by bounds.** -/
theorem Fits.bounded_tokenize {place : Place} {text : List Char} (fits : Fits place text)
    (policy : Policy) : (tokenize policy place text).bounded = tokenize policy place text := by
  have rules := tokenizes policy place text
  have occurrences : ∀ occurrence ∈ (tokenize policy place text).occurrences,
      occurrence.bounded = occurrence := by
    intro occurrence member
    obtain ⟨before, word, later, kind, rfl, token, rfl⟩ := rules.exists_of_mem_occurrences member
    exact fits.append.bounded_occurrence token.ne_nil token.lineFeed_not_mem
  have complaints : ∀ complaint ∈ (tokenize policy place text).complaints,
      complaint.bounded = complaint := by
    intro complaint member
    obtain ⟨before, later, word, kind, rfl, found, rfl⟩ := rules.exists_of_mem_complaints member
    obtain ⟨_, nonempty, ⟨rest, rfl⟩, _⟩ := illegal_of_front found
    obtain ⟨first, more, rfl⟩ := List.exists_cons_of_ne_nil nonempty
    obtain ⟨line, column⟩ := fits.append.first
    exact Complaint.bounded_eq line column
  rw [Transcript.bounded, List.map_congr_left occurrences, List.map_congr_left complaints,
    List.map_id', List.map_id']

/-! ## Passes as steps of the tokenizer -/

section Steps

variable {outlook next : Outlook} {policy : Policy}

/-- A pass that finds a lexeme puts its occurrence in front. -/
theorem ofLexemes_of_lexeme {start : Position} {text : List Char} {kind : Kind}
    (passed : outlook.pass policy = (some (.lexeme start text kind), next)) :
    Transcript.ofLexemes (outlook.lexemes policy) =
      (Transcript.ofLexemes (next.lexemes policy)).preceded
        (Lexeme.mk start text kind).occurrence := by
  rw [Outlook.lexemes_of_lexeme (Outlook.scan_of_some passed)]
  rfl

/-- A pass that finds the end leaves nothing to be said but the end. -/
theorem ofLexemes_of_over {ending : Ending}
    (passed : (outlook.pass policy).1 = some (.over ending)) :
    Transcript.ofLexemes (outlook.lexemes policy) = Transcript.ofLexemes ([], ending) := by
  rw [Outlook.lexemes_of_over (Outlook.scan_of_some (Prod.ext passed rfl))]

end Steps

/-! ## Placed text in view -/

namespace Outlook

variable {place : Place} {first : Char} {later text : List Char} {last : Position}

/-- The outlook on a text whose first character is at a place. -/
def placed (place : Place) (text : List Char) (last : Position) : Outlook :=
  ⟨locate place text, none, last⟩

theorem chars_placed (place : Place) (text : List Char) (last : Position) :
    chars (placed place text last).characters = text :=
  map_char_locate place text

theorem drop_placed (place : Place) (text : List Char) (last : Position) (count : Nat) :
    (placed place text last).drop count =
      placed (place.after (text.take count)) (text.drop count) last :=
  congrArg (Outlook.mk · none last) (drop_locate place text count)

/-- A run of placed text is the run of the text. -/
theorem chars_takeWhile_placed (place : Place) (text : List Char) (last : Position)
    (condition : Char → Bool) :
    chars ((placed place text last).characters.takeWhile fun next => condition next.char) =
      text.takeWhile condition := by
  have run : ((locate place text).map Located.char).takeWhile condition =
      chars ((locate place text).takeWhile (condition ∘ Located.char)) := List.takeWhile_map
  rw [map_char_locate] at run
  exact run.symm

/-- A blank is dropped in the pass that meets it. -/
theorem pass_placed_of_isBlank (blank : isBlank first) (policy : Policy) :
    (placed place (first :: later) last).pass policy =
      (placed (place.next first) later last).pass policy := by
  have dropped : (placed place (first :: later) last).dropWhile (isBlank ·.char) =
      (placed (place.next first) later last).dropWhile (isBlank ·.char) :=
    congrArg (Outlook.mk · none last) (List.dropWhile_cons_of_pos blank)
  simp only [pass, dropped]

/-- A character that is no blank stays in view. -/
theorem dropWhile_placed_of_not_isBlank (place : Place) (later : List Char) (last : Position)
    (other : ¬isBlank first) :
    (placed place (first :: later) last).dropWhile (isBlank ·.char) =
      placed place (first :: later) last :=
  congrArg (Outlook.mk · none last) (List.dropWhile_cons_of_neg other)

/-! ## Words and literals -/

/-- The run of a word in placed text, and what is left behind it. -/
theorem pass_placed_of_word (other : ¬isBlank first) (starts : startsWord first)
    (policy : Policy) :
    (placed place (first :: later) last).pass policy =
      (some (.lexeme place.position ((first :: later).takeWhile continuesWord) .identifier),
        placed (place.after ((first :: later).takeWhile continuesWord))
          ((first :: later).drop ((first :: later).takeWhile continuesWord).length) last) := by
  have shown := dropWhile_placed_of_not_isBlank place later last other
  have run := chars_takeWhile_placed place (first :: later) last continuesWord
  have length := congrArg List.length run
  have begins := List.takeWhile_prefix (l := first :: later) continuesWord
  rw [chars, List.length_map] at length
  rw [pass_of_word policy (congrArg Outlook.characters shown) starts, shown, word, length, run,
    drop_placed, ← List.prefix_iff_eq_take.mp begins]

/-- A literal in placed text, as long as it is accepted. -/
theorem pass_placed_of_accept {policy : Policy} {length : Nat} {kind : Kind}
    (other : ¬isBlank first) (noWord : ¬startsWord first) (digit : isDigit first)
    (accepted : Literal.judge policy (Literal.candidate (first :: later)) = .accept length kind) :
    (placed place (first :: later) last).pass policy =
      (some (.lexeme place.position ((first :: later).take length) kind),
        placed (place.after ((first :: later).take length)) ((first :: later).drop length)
          last) := by
  have shown := dropWhile_placed_of_not_isBlank place later last other
  rw [pass_of_literal policy (congrArg Outlook.characters shown) noWord digit, shown]
  simp only [literal, chars_placed, accepted, Literal.take_of_accept accepted, drop_placed]

/-- Digits in placed text that are rejected end the session. -/
theorem pass_placed_of_reject {policy : Policy} {length : Nat}
    (other : ¬isBlank first) (noWord : ¬startsWord first) (digit : isDigit first)
    (rejected : Literal.judge policy (Literal.candidate (first :: later)) = .reject length) :
    ((placed place (first :: later) last).pass policy).1 =
      some (.over (.stopped ⟨.illegalLiteral, String.ofList ((first :: later).take length),
        place.position⟩)) := by
  have shown := dropWhile_placed_of_not_isBlank place later last other
  rw [pass_of_literal policy (congrArg Outlook.characters shown) noWord digit, shown]
  simp only [literal, chars_placed, rejected, Literal.take_of_reject rejected]

/-! ## Operators and comments -/

/-- What is munched of placed text is munched of the text. -/
theorem munch_placed (place : Place) (first : Char) (later : List Char) (last : Position) :
    Operator.munch first ((placed place (first :: later) last).characters[1]?.map Located.char) =
      Operator.munch first later.head? := by
  have second : (locate place (first :: later))[1]?.map Located.char = later.head? := by
    rw [← List.getElem?_map, map_char_locate, List.head?_eq_getElem?]
    rfl
  exact congrArg (Operator.munch first) second

/-- Two lines in a row have different numbers, even where numbers wrap. -/
theorem not_ofNat_succ_beq (line : Nat) : ¬(UInt32.ofNat (line + 1) == UInt32.ofNat line) := by
  intro same
  have numbers := congrArg UInt32.toNat (eq_of_beq same)
  rw [UInt32.toNat_ofNat', UInt32.toNat_ofNat'] at numbers
  omega

/-- **The rest of a line ends with its line feed, and the number of the line tells
so.** -/
theorem dropWhile_line_placed (place : Place) (text : List Char) (last : Position) :
    (placed place text last).dropWhile (·.position.line == .ofNat place.line) =
      placed ⟨place.line + 1, 1⟩ ((text.dropWhile (· != '\n')).drop 1) last := by
  induction text generalizing place with
  | nil => rfl
  | cons char later ih =>
    have dropped : (placed place (char :: later) last).dropWhile
          (·.position.line == .ofNat place.line) =
        (placed (place.next char) later last).dropWhile
          (·.position.line == .ofNat place.line) :=
      congrArg (Outlook.mk · none last) (List.dropWhile_cons_of_pos (beq_self_eq_true _))
    rw [dropped]
    by_cases isFeed : char = '\n'
    · subst isFeed
      rw [List.dropWhile_cons_of_neg (by decide), List.drop_one, List.tail_cons,
        Place.next_lineFeed]
      cases later with
      | nil => rfl
      | cons first more =>
        have other := not_ofNat_succ_beq place.line
        exact congrArg (Outlook.mk · none last) (List.dropWhile_cons_of_neg other)
    · rw [Place.next_of_ne isFeed, List.dropWhile_cons_of_pos (by simpa using isFeed)]
      exact ih ⟨place.line, place.column + 1⟩

section Operators

variable {policy : Policy} (other : ¬isBlank first) (noWord : ¬startsWord first)
  (digit : ¬isDigit first)

include other noWord digit

theorem pass_placed_of_operator (policy : Policy) :
    (placed place (first :: later) last).pass policy =
      (placed place (first :: later) last).operator ⟨first, place.position⟩ := by
  have shown := dropWhile_placed_of_not_isBlank place later last other
  rw [pass_of_operator policy (congrArg Outlook.characters shown) noWord digit, shown]

/-- An operator in placed text. -/
theorem pass_placed_of_mark {mark : Operator}
    (found : Operator.longest? (first :: later) = some mark) (lasts : mark ≠ .comment) :
    (placed place (first :: later) last).pass policy =
      (some (.lexeme place.position mark.spelling.toList (.operator mark)),
        placed (place.after mark.spelling.toList)
          ((first :: later).drop mark.spelling.toList.length) last) := by
  have munched := munch_placed place first later last
  rw [Operator.munch_of_some found] at munched
  rw [pass_placed_of_operator other noWord digit, operator, munched, Operator.ofChars?_spelling,
    drop_placed, Operator.take_of_longest? found]
  cases mark <;> first | rfl | exact absurd rfl lasts

/-- A comment in placed text goes on through the next line feed. -/
theorem pass_placed_of_comment (found : Operator.longest? (first :: later) = some .comment) :
    (placed place (first :: later) last).pass policy =
      (none,
        placed ⟨place.line + 1, 1⟩ (((first :: later).dropWhile (· != '\n')).drop 1) last) := by
  have munched := munch_placed place first later last
  rw [Operator.munch_of_some found] at munched
  obtain ⟨more, whole⟩ : ['/', '/'] <+: first :: later := by
    have begins := Operator.munch_begins first later
    rwa [Operator.munch_of_some found] at begins
  rw [pass_placed_of_operator other noWord digit, operator, munched, Operator.ofChars?_spelling,
    drop_placed, Operator.take_of_longest? found]
  rw [← whole]
  exact congrArg (Prod.mk none) (dropWhile_line_placed _ _ _)

/-- A character in placed text that starts no token ends the session. -/
theorem pass_placed_of_unknown (found : Operator.longest? (first :: later) = none) :
    ((placed place (first :: later) last).pass policy).1 =
      some (.over (.stopped ⟨.illegalCharacter, String.ofList [first], place.position⟩)) := by
  have munched := munch_placed place first later last
  have unknown := Operator.longest?_eq first later
  rw [found, Operator.munch_of_none found] at unknown
  rw [Operator.munch_of_none found] at munched
  rw [pass_placed_of_operator other noWord digit, operator, munched, ← unknown]

end Operators

end Outlook

/-! ## Every step of the tokenizer -/

section Fronts

variable {policy : Policy}

/-- The token at the front of a placed text is found by a pass. -/
theorem Outlook.pass_placed_of_front {place : Place} {text word : List Char} {kind : Kind}
    (found : front policy text = .token word kind) (last : Position) :
    ∃ looks, (placed place text last).pass policy =
      (some (.lexeme place.position word looks),
        placed (place.after word) (text.drop word.length) last) := by
  cases frontCase_of_eq found with
  | word other starts => exact ⟨.identifier, pass_placed_of_word other starts policy⟩
  | accept other starts digit verdict =>
    refine ⟨kind, ?_⟩
    rw [Literal.length_take_of_accept verdict]
    exact pass_placed_of_accept other starts digit verdict
  | mark other starts digit lasts recognised =>
    exact ⟨_, pass_placed_of_mark other starts digit recognised lasts⟩

/-- What is no token ends the session that meets it. -/
theorem Outlook.pass_placed_of_illegal {place : Place} {text word : List Char}
    {kind : Diagnostic.Kind} (found : front policy text = .illegal kind word) (last : Position) :
    ((placed place text last).pass policy).1 =
      some (.over (.stopped ⟨kind, String.ofList word, place.position⟩)) := by
  cases frontCase_of_eq found with
  | reject other starts digit verdict =>
    exact pass_placed_of_reject other starts digit verdict
  | unknown other starts digit recognised =>
    exact pass_placed_of_unknown other starts digit recognised

/-- A blank is not found by a scan. -/
theorem Outlook.scan_placed_of_isBlank {place : Place} {first : Char} (blank : isBlank first)
    (later : List Char) (last : Position) :
    (placed place (first :: later) last).scan policy =
      (placed (place.next first) later last).scan policy :=
  scan_congr (pass_placed_of_isBlank blank policy)

/-- A comment is not found by a scan, which goes on at the end of its line. -/
theorem Outlook.scan_placed_of_comment {place : Place} {line later : List Char}
    (found : front policy (line ++ later) = .comment) (oneLine : '\n' ∉ line)
    (ends : later = [] ∨ ∃ more, later = '\n' :: more) (last : Position) :
    (placed place (line ++ later) last).scan policy =
      (placed (place.after line) later last).scan policy := by
  have passed : (placed place (line ++ later) last).pass policy =
      (none, placed ⟨place.line + 1, 1⟩
        (((line ++ later).dropWhile (· != '\n')).drop 1) last) := by
    have shown := frontCase_of_eq found
    generalize line ++ later = text at shown
    cases shown with
    | comment other starts digit recognised =>
      exact pass_placed_of_comment other starts digit recognised
  -- The scan goes on behind the line feed, which is a blank where the rule goes on.
  rw [scan_of_none passed, dropWhile_line_append oneLine ends]
  rcases ends with rfl | ⟨more, rfl⟩
  · rfl
  · rw [scan_placed_of_isBlank (by decide), Place.after_of_not_mem oneLine, Place.next_lineFeed]
    rfl

end Fronts

/-- **The lexemes in view of a placed text are those that the tokenizer reads off
it, with their places bounded.** -/
theorem ofLexemes_placed_eq_bounded (policy : Policy) (place : Place) (text : List Char)
    (last : Position) :
    Transcript.ofLexemes ((Outlook.placed place text last).lexemes policy) =
      (tokenize policy place text).bounded := by
  have rules := tokenizes policy place text
  generalize tokenize policy place text = transcript at rules
  induction rules with
  | ended => exact ofLexemes_of_over (congrArg Prod.fst (Outlook.pass_of_nil policy rfl))
  | blank blank _ ih =>
    rw [Outlook.lexemes_congr (Outlook.scan_placed_of_isBlank blank _ last), ih]
  | token found _ ih =>
    obtain ⟨looks, passed⟩ := Outlook.pass_placed_of_front found last
    rw [List.drop_left] at passed
    rw [ofLexemes_of_lexeme passed, ih,
      occurrence_position looks (isToken_of_front found).1.ofText_eq]
    rfl
  | comment found oneLine ends _ ih =>
    rw [Outlook.lexemes_congr (Outlook.scan_placed_of_comment found oneLine ends last), ih]
  | illegal found =>
    rw [ofLexemes_of_over (Outlook.pass_placed_of_illegal found last), ofLexemes_stopped]

/-- The lexemes in view of a placed text that fits are those that the tokenizer
reads off it. -/
theorem ofLexemes_placed (policy : Policy) {place : Place} {text : List Char}
    (fits : Fits place text) (last : Position) :
    Transcript.ofLexemes ((Outlook.placed place text last).lexemes policy) =
      tokenize policy place text :=
  (ofLexemes_placed_eq_bounded policy place text last).trans (fits.bounded_tokenize policy)

/-! ## Lexing a text -/

/-- Lexing a text says what the tokenizer reads off its characters, with places
bounded to 32 bits. -/
theorem transcript_lex_eq_bounded (text : String) (policy : Policy) :
    (lex text policy).transcript = (tokenize policy .start text.toList).bounded := by
  obtain ⟨tokens, diagnostics, termination⟩ := lexWith_eq (LineReader.ofText text) 0 policy
  have outlook := Lookahead.outlook_ofSource (LineReader.ofText text)
  rw [LineReader.deliver_ofText] at outlook
  rw [lex, Output.transcript, tokens, diagnostics, termination, outlook,
    SymbolTable.map_occurrence_issueAll (SymbolTable.spelled_new 0)
      (Outlook.spelled_of_lexemes _ policy)]
  exact ofLexemes_placed_eq_bounded policy .start text.toList _

/-- **Lexing a text says what the tokenizer reads off its characters,** if the
text has fewer than `2 ^ 32` lines, each shorter than `2 ^ 32 - 1`. -/
theorem transcript_lex (text : String) (policy : Policy)
    (fewLines : (lines text.toList).length < 2 ^ 32)
    (shortLines : ∀ line ∈ splitOn '\n' text.toList, line.length < 2 ^ 32 - 1) :
    (lex text policy).transcript = tokenize policy .start text.toList := by
  have fits : Fits .start text.toList := fun _ _ _ whole => place_fits fewLines shortLines whole
  obtain ⟨tokens, diagnostics, termination⟩ := lexWith_eq (LineReader.ofText text) 0 policy
  have outlook := Lookahead.outlook_ofSource (LineReader.ofText text)
  rw [LineReader.deliver_ofText] at outlook
  rw [lex, Output.transcript, tokens, diagnostics, termination, outlook,
    SymbolTable.map_occurrence_issueAll (SymbolTable.spelled_new 0)
      (Outlook.spelled_of_lexemes _ policy)]
  exact ofLexemes_placed policy fits _

/-- A comment, and a date that is not accepted behind it. -/
theorem transcript_lex_comment :
    (lex "n <= 7/x // t\n 1/2-24 if 3/4/5/" ⟨.split, true⟩).transcript =
      ⟨[⟨"n", .identifier, 1, 1, 1⟩, ⟨"<=", .operator .lessEqual, 1, 3, 4⟩,
          ⟨"7", .integer, 1, 6, 6⟩, ⟨"/", .operator .divide, 1, 7, 7⟩,
          ⟨"x", .identifier, 1, 8, 8⟩],
        .illegalLiteral, [⟨.illegalLiteral, "1/2-24", 2, 2⟩]⟩ :=
  (transcript_lex _ _ (by decide +kernel) (by decide +kernel)).trans (by decide +kernel)

end Lexis
