import Lexis.Proofs.Tokenizer

/-!
# Lexing line by line

Two texts with a line feed between them are lexed one after the other
(`transcript_lex_join`): if the first is read to its end, its tokens come first
and the second text is lexed further down, by the line feeds before it; if the
first text stops with a complaint, the second one is not looked at.

A line feed is a blank, and a blank ends what stands before it
(`front_append_blank`). So the end of a text and a line feed are the same to what
stands in front of them: a literal or an operator at the end of a line does not
change when more lines follow, and a comment ends there in either case
(`Tokenizes.append_lineFeed`). Reading starts afresh behind the line feed, where
only the number of the line tells that there was a text before
(`Tokenizes.down`).
-/

namespace Lexis

set_option autoImplicit false

/-! ## Further down -/

/-- A place so many lines further down. -/
def Place.down (place : Place) (count : Nat) : Place :=
  { place with line := place.line + count }

/-- An occurrence so many lines further down. -/
def Occurrence.down (occurrence : Occurrence) (count : Nat) : Occurrence :=
  { occurrence with line := occurrence.line + count }

/-- A complaint so many lines further down. -/
def Complaint.down (complaint : Complaint) (count : Nat) : Complaint :=
  { complaint with line := complaint.line + count }

/-- A transcript so many lines further down. -/
def Transcript.down (transcript : Transcript) (count : Nat) : Transcript :=
  { transcript with
    occurrences := transcript.occurrences.map (·.down count)
    complaints := transcript.complaints.map (·.down count) }

/-- What is said about a text and then about what follows it. A text that is not
read to its end has nothing following it. -/
def Transcript.followedBy (first second : Transcript) : Transcript :=
  if first.termination = .exhausted then
    { second with occurrences := first.occurrences ++ second.occurrences }
  else first

namespace Transcript

theorem followedBy_of_exhausted {first : Transcript} (ends : first.termination = .exhausted)
    (second : Transcript) :
    first.followedBy second =
      ⟨first.occurrences ++ second.occurrences, second.termination, second.complaints⟩ :=
  if_pos ends

theorem followedBy_of_ne {first : Transcript} (stops : first.termination ≠ .exhausted)
    (second : Transcript) : first.followedBy second = first :=
  if_neg stops

theorem preceded_followedBy (first second : Transcript) (occurrence : Occurrence) :
    (first.preceded occurrence).followedBy second =
      (first.followedBy second).preceded occurrence := by
  have same : (first.preceded occurrence).termination = first.termination := rfl
  by_cases ends : first.termination = .exhausted
  · rw [followedBy_of_exhausted ends, followedBy_of_exhausted (same.trans ends)]
    rfl
  · rw [followedBy_of_ne ends, followedBy_of_ne (same ▸ ends)]

/-- What stops with a complaint is not followed by anything. -/
theorem stopped_followedBy (place : Place) (kind : Diagnostic.Kind) (text : List Char)
    (second : Transcript) :
    (stopped place kind text).followedBy second = stopped place kind text :=
  followedBy_of_ne kind.termination_ne_exhausted second

theorem bounded_followedBy (first second : Transcript) :
    (first.followedBy second).bounded = first.bounded.followedBy second.bounded := by
  have same : first.bounded.termination = first.termination := rfl
  by_cases ends : first.termination = .exhausted
  · rw [followedBy_of_exhausted ends, followedBy_of_exhausted (same.trans ends)]
    simp only [bounded, List.map_append]
  · rw [followedBy_of_ne ends, followedBy_of_ne (same ▸ ends)]

/-- Bounds may be put on places before they are moved down, if the lines further
down fit. -/
theorem bounded_down {transcript : Transcript} {count : Nat}
    (occurrences : ∀ occurrence ∈ transcript.occurrences, occurrence.line + count < 2 ^ 32)
    (complaints : ∀ complaint ∈ transcript.complaints, complaint.line + count < 2 ^ 32) :
    (transcript.down count).bounded = transcript.bounded.down count := by
  have same {line : Nat} (fits : line + count < 2 ^ 32) :
      (line + count) % 2 ^ 32 = line % 2 ^ 32 + count := by
    rw [Nat.mod_eq_of_lt fits, Nat.mod_eq_of_lt (Nat.lt_of_le_of_lt (Nat.le_add_right _ _) fits)]
  have occurrences' : ∀ occurrence ∈ transcript.occurrences,
      (occurrence.down count).bounded = occurrence.bounded.down count := by
    intro occurrence member
    simp only [Occurrence.down, Occurrence.bounded, same (occurrences occurrence member)]
  have complaints' : ∀ complaint ∈ transcript.complaints,
      (complaint.down count).bounded = complaint.bounded.down count := by
    intro complaint member
    simp only [Complaint.down, Complaint.bounded, same (complaints complaint member)]
  simp only [bounded, down, List.map_map, mk.injEq, true_and]
  exact ⟨List.map_congr_left occurrences', List.map_congr_left complaints'⟩

end Transcript

namespace Place

theorem next_down (place : Place) (count : Nat) (char : Char) :
    (place.down count).next char = (place.next char).down count := by
  by_cases isFeed : char = '\n'
  · subst isFeed
    exact congrArg (Place.mk · 1) (Nat.add_right_comm _ _ _)
  · rw [next_of_ne isFeed, next_of_ne isFeed]
    rfl

theorem after_down (place : Place) (count : Nat) (text : List Char) :
    (place.down count).after text = (place.after text).down count := by
  induction text generalizing place with
  | nil => rfl
  | cons char later ih => rw [after_cons, after_cons, next_down, ih]

/-- The line behind a text and a line feed is further down than the first by the
line feeds there are. -/
theorem next_after_start (text : List Char) :
    (start.after text).next '\n' = start.down (1 + text.count '\n') := by
  rw [next_lineFeed, line_after, down]
  simp only [start, mk.injEq, and_true]
  omega

end Place

namespace Tokenizes

variable {policy : Policy} {place : Place} {text : List Char} {transcript : Transcript}

/-- **Where a text starts does not matter to what is read, only to where it is
said to stand.** -/
theorem down (rules : Tokenizes policy place text transcript) (count : Nat) :
    Tokenizes policy (place.down count) text (transcript.down count) := by
  induction rules with
  | ended => exact .ended
  | blank blank _ ih =>
    rw [← Place.next_down] at ih
    exact .blank blank ih
  | token found _ ih =>
    rw [← Place.after_down] at ih
    exact .token found ih
  | comment found oneLine ends _ ih =>
    rw [← Place.after_down] at ih
    exact .comment found oneLine ends ih
  | illegal found => exact .illegal found

/-! ## One text after the other -/

/-- **A line feed ends a text for what is read of it:** then what follows the
line feed is read by itself. -/
theorem append_lineFeed (rules : Tokenizes policy place text transcript) {later : List Char}
    {laterTranscript : Transcript}
    (laterRules : Tokenizes policy ((place.after text).next '\n') later laterTranscript) :
    Tokenizes policy place (text ++ '\n' :: later) (transcript.followedBy laterTranscript) := by
  have feed : isBlank '\n' = true := by decide
  induction rules with
  | ended => exact .blank feed laterRules
  | blank blank _ ih => exact .blank blank (ih laterRules)
  | @token place word rest kind transcript found _ ih =>
    have nonempty : word ++ rest ≠ [] :=
      List.append_ne_nil_of_left_ne_nil (isToken_of_front found).1.ne_nil rest
    rw [← front_append_blank feed nonempty later, List.append_assoc] at found
    rw [Place.after_append] at laterRules
    rw [List.append_assoc, Transcript.preceded_followedBy]
    exact .token found (ih laterRules)
  | @comment place line rest transcript found oneLine ends _ ih =>
    have nonempty : line ++ rest ≠ [] := by
      obtain ⟨more, whole⟩ := slashes_of_front found
      rw [← whole]
      exact List.cons_ne_nil _ _
    rw [← front_append_blank feed nonempty later, List.append_assoc] at found
    rw [Place.after_append] at laterRules
    rw [List.append_assoc]
    -- A comment at the end of the text ends at the line feed that follows the text.
    refine .comment found oneLine (.inr ?_) (ih laterRules)
    rcases ends with rfl | ⟨more, rfl⟩
    · exact ⟨later, rfl⟩
    · exact ⟨more ++ '\n' :: later, rfl⟩
  | @illegal place text word kind found =>
    obtain ⟨noFault, nonempty, ⟨rest, rfl⟩, _⟩ := illegal_of_front found
    rw [← front_append_blank feed (List.append_ne_nil_of_left_ne_nil nonempty rest) later] at found
    rw [Transcript.stopped_followedBy]
    exact .illegal found

end Tokenizes

/-! ## Lexing two texts as one -/

/-- The tokenizer reads the text behind a line feed as it would read it by
itself. -/
theorem tokenize_join (policy : Policy) (first second : List Char) :
    tokenize policy .start (first ++ '\n' :: second) =
      (tokenize policy .start first).followedBy
        ((tokenize policy .start second).down (1 + first.count '\n')) := by
  have laterRules := (tokenizes policy .start second).down (1 + first.count '\n')
  rw [← Place.next_after_start] at laterRules
  exact ((tokenizes policy .start first).append_lineFeed laterRules).tokenize_eq

/-- The lines of the second text fit further down, if those of the whole do. -/
theorem bounded_down_tokenize {policy : Policy} {first second : List Char}
    (fewLines : (lines (first ++ '\n' :: second)).length < 2 ^ 32) :
    ((tokenize policy .start second).down (1 + first.count '\n')).bounded =
      (tokenize policy .start second).bounded.down (1 + first.count '\n') := by
  have rules := tokenizes policy .start second
  have fits {before later : List Char} {char : Char} (whole : second = before ++ char :: later) :
      (Place.start.after before).line + (1 + first.count '\n') < 2 ^ 32 := by
    have counted := count_lt_length_lines (first ++ '\n' :: before) char later
    rw [List.append_assoc, List.cons_append, ← whole, List.count_append,
      List.count_cons_self] at counted
    rw [Place.line_after]
    show 1 + _ + _ < _
    omega
  refine Transcript.bounded_down ?_ ?_
  · intro occurrence member
    obtain ⟨before, word, later, kind, whole, token, rfl⟩ := rules.exists_of_mem_occurrences member
    obtain ⟨char, more, rfl⟩ := List.exists_cons_of_ne_nil token.ne_nil
    exact fits whole
  · intro complaint member
    obtain ⟨before, later, word, kind, whole, found, rfl⟩ := rules.exists_of_mem_complaints member
    obtain ⟨_, nonempty, ⟨rest, rfl⟩, _⟩ := illegal_of_front found
    obtain ⟨char, more, rfl⟩ := List.exists_cons_of_ne_nil nonempty
    exact fits whole

/-- **Two texts with a line feed between them are lexed one after the other,** if
there are fewer than `2 ^ 32` lines: the second text is lexed by itself and its
places are moved down, or it is not looked at because the first one stops. -/
theorem transcript_lex_join (first second : String) (policy : Policy)
    (fewLines : (lines (first ++ "\n" ++ second).toList).length < 2 ^ 32) :
    let joined := (lex (first ++ "\n" ++ second) policy).transcript
    let moved := (lex second policy).transcript.down (1 + first.toList.count '\n')
    ((lex first policy).termination = .exhausted →
      joined = ⟨(lex first policy).transcript.occurrences ++ moved.occurrences,
        (lex second policy).termination, moved.complaints⟩) ∧
    ((lex first policy).termination ≠ .exhausted →
      joined = (lex first policy).transcript) := by
  intro joined moved
  have whole : (first ++ "\n" ++ second).toList = first.toList ++ '\n' :: second.toList := by
    rw [String.toList_append, String.toList_append, List.append_assoc]
    rfl
  rw [whole] at fewLines
  have said : joined = (lex first policy).transcript.followedBy moved := by
    simp only [joined, moved, transcript_lex_eq_bounded]
    rw [whole, tokenize_join, Transcript.bounded_followedBy, bounded_down_tokenize fewLines]
  have same : (lex first policy).transcript.termination = (lex first policy).termination := rfl
  constructor
  · intro ends
    exact said.trans (Transcript.followedBy_of_exhausted (same.trans ends) moved)
  · intro stops
    exact said.trans (Transcript.followedBy_of_ne (same ▸ stops) moved)

/-- Digits and a slash at the end of a line, where the next line starts with what
would make them a date; and a date that stops the first of two lines. -/
theorem transcript_lex_join_dates :
    ((lines ("n // t\n1/2" ++ "\n" ++ "/24 ?").toList).length < 2 ^ 32 ∧
      (lex ("n // t\n1/2" ++ "\n" ++ "/24 ?") ⟨.split, true⟩).transcript =
        ⟨[⟨"n", .identifier, 1, 1, 1⟩, ⟨"1", .integer, 2, 1, 1⟩,
            ⟨"/", .operator .divide, 2, 2, 2⟩, ⟨"2", .integer, 2, 3, 3⟩,
            ⟨"/", .operator .divide, 3, 1, 1⟩, ⟨"24", .integer, 3, 2, 3⟩],
          .illegalCharacter, [⟨.illegalCharacter, "?", 3, 5⟩]⟩) ∧
    ((lines ("n 1/2-24" ++ "\n" ++ "x").toList).length < 2 ^ 32 ∧
      (lex ("n 1/2-24" ++ "\n" ++ "x") ⟨.split, true⟩).transcript =
        ⟨[⟨"n", .identifier, 1, 1, 1⟩], .illegalLiteral,
          [⟨.illegalLiteral, "1/2-24", 1, 3⟩]⟩) := by
  have first : (lex "n // t\n1/2" ⟨.split, true⟩).transcript =
      ⟨[⟨"n", .identifier, 1, 1, 1⟩, ⟨"1", .integer, 2, 1, 1⟩,
        ⟨"/", .operator .divide, 2, 2, 2⟩, ⟨"2", .integer, 2, 3, 3⟩], .exhausted, []⟩ :=
    (transcript_lex_eq_bounded _ _).trans (by decide +kernel)
  have second : (lex "/24 ?" ⟨.split, true⟩).transcript =
      ⟨[⟨"/", .operator .divide, 1, 1, 1⟩, ⟨"24", .integer, 1, 2, 3⟩], .illegalCharacter,
        [⟨.illegalCharacter, "?", 1, 5⟩]⟩ :=
    (transcript_lex_eq_bounded _ _).trans (by decide +kernel)
  have stopped : (lex "n 1/2-24" ⟨.split, true⟩).transcript =
      ⟨[⟨"n", .identifier, 1, 1, 1⟩], .illegalLiteral, [⟨.illegalLiteral, "1/2-24", 1, 3⟩]⟩ :=
    (transcript_lex_eq_bounded _ _).trans (by decide +kernel)
  have fewLines : (lines ("n // t\n1/2" ++ "\n" ++ "/24 ?").toList).length < 2 ^ 32 := by
    decide +kernel
  have fewLines' : (lines ("n 1/2-24" ++ "\n" ++ "x").toList).length < 2 ^ 32 := by
    decide +kernel
  have ends : (lex "n // t\n1/2" ⟨.split, true⟩).termination = .exhausted :=
    congrArg Transcript.termination first
  have stops : (lex "n 1/2-24" ⟨.split, true⟩).termination ≠ .exhausted := by
    intro ends
    cases ends.symm.trans (congrArg Transcript.termination stopped)
  have stopsAt : (lex "/24 ?" ⟨.split, true⟩).termination = .illegalCharacter :=
    congrArg Transcript.termination second
  refine ⟨⟨fewLines, ?_⟩, fewLines', ?_⟩
  · rw [(transcript_lex_join _ _ _ fewLines).1 ends, first, second, stopsAt]
    decide +kernel
  · rw [(transcript_lex_join _ _ _ fewLines').2 stops, stopped]

end Lexis
