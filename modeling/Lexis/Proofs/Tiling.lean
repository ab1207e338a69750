import Lexis.Proofs.Reach
import Lexis.Proofs.WholeLines

/-!
# Tokens tile their text

The tokens of a text and what stands between them make up the text
(`tiles_lex`). Each token is a part of one line, from its first column to its
last; tokens follow each other without overlapping; a complaint quotes what
stands behind the last of them; and what no token covers before the end, or
before the complaint, is blank or belongs to a comment. The token that marks the
end stands behind all others.

The rules of transcripts read a text from left to right and part by part
(`Tokenizes`). What a rule reads stands between the place it starts from and the
place it leads to, so everything here is proved by going through the rules.
-/

namespace Lexis

set_option autoImplicit false

/-! ## Places of tokens -/

namespace Occurrence

def firstPlace (occurrence : Occurrence) : Place :=
  ⟨occurrence.line, occurrence.left⟩

def lastPlace (occurrence : Occurrence) : Place :=
  ⟨occurrence.line, occurrence.right⟩

/-- Whether a place is one of those that an occurrence takes up. -/
def Covers (occurrence : Occurrence) (place : Place) : Prop :=
  occurrence.firstPlace ≤ place ∧ place ≤ occurrence.lastPlace

/-- An occurrence whose text is the part of a line from its first to its last
column, with no blank in it. -/
structure StandsIn (occurrence : Occurrence) (text : List Char) : Prop where
  line_pos : 1 ≤ occurrence.line
  left_pos : 1 ≤ occurrence.left
  left_le_right : occurrence.left ≤ occurrence.right
  length_eq : occurrence.right - occurrence.left + 1 = occurrence.text.length
  text_eq : occurrence.text.toList =
    (restOfLine text occurrence.firstPlace).take (occurrence.right - occurrence.left + 1)
  not_isBlank : ∀ char ∈ occurrence.text.toList, isBlank char = false

end Occurrence

def Complaint.place (complaint : Complaint) : Place :=
  ⟨complaint.line, complaint.column⟩

/-- A comment is open between the two parts of a text that starts at a place: two
slashes stand earlier on the line, behind all tokens of the line, and no
complaint is made before the line ends. -/
def Transcript.CommentOpen (transcript : Transcript) (place : Place) (before later : List Char) :
    Prop :=
  ∃ front line, before = front ++ line ∧ '\n' ∉ line ∧ ['/', '/'] <+: line ++ later ∧
    (∀ occurrence ∈ transcript.occurrences, occurrence.line = (place.after front).line →
      occurrence.lastPlace < place.after front) ∧
    ∀ complaint ∈ transcript.complaints, (place.after front).line < complaint.line

/-- A complaint that quotes what the text has at its place. -/
structure Complaint.StandsIn (complaint : Complaint) (text : List Char) : Prop where
  line_pos : 1 ≤ complaint.line
  column_pos : 1 ≤ complaint.column
  nonempty : complaint.text ≠ ""
  begins : complaint.text.toList <+: restOfLine text complaint.place

/-- A transcript that accounts for a text. -/
structure Tiles (text : List Char) (transcript : Transcript) : Prop where
  tokens : ∀ occurrence ∈ transcript.occurrences, occurrence.StandsIn text
  inOrder : transcript.occurrences.Pairwise fun earlier later =>
    earlier.lastPlace < later.firstPlace
  complaints : ∀ complaint ∈ transcript.complaints, complaint.StandsIn text ∧
    ∀ occurrence ∈ transcript.occurrences, occurrence.lastPlace < complaint.place
  covered : ∀ before char later, text = before ++ char :: later →
    (∀ complaint ∈ transcript.complaints, Place.start.after before < complaint.place) →
    (∀ occurrence ∈ transcript.occurrences, ¬occurrence.Covers (Place.start.after before)) →
    isBlank char ∨ transcript.CommentOpen .start before (char :: later)

namespace Transcript.CommentOpen

variable {transcript : Transcript} {place : Place} {before later : List Char}

/-- A comment stays open when more of the text in front of it is taken in. -/
theorem append {skipped : List Char}
    (opened : transcript.CommentOpen (place.after skipped) before later) :
    transcript.CommentOpen place (skipped ++ before) later := by
  obtain ⟨front, line, rfl, oneLine, slashes, occurrences, complaints⟩ := opened
  rw [← Place.after_append] at occurrences complaints
  exact ⟨skipped ++ front, line, (List.append_assoc _ _ _).symm, oneLine, slashes, occurrences,
    complaints⟩

/-- A token in front of the text does not stand in a comment that is open in it. -/
theorem preceded {occurrence : Occurrence} {word : List Char}
    (opened : transcript.CommentOpen (place.after word) before later)
    (ends : occurrence.lastPlace < place.after word) :
    (transcript.preceded occurrence).CommentOpen (place.after word) before later := by
  obtain ⟨front, line, whole, oneLine, slashes, occurrences, complaints⟩ := opened
  refine ⟨front, line, whole, oneLine, slashes, ?_, complaints⟩
  intro found member onLine
  rcases List.mem_cons.mp member with rfl | member
  · exact Place.lt_of_lt_of_le ends (Place.le_after _ front)
  · exact occurrences found member onLine

end Transcript.CommentOpen

/-! ## One token -/

namespace IsToken

variable {policy : Policy} {word : List Char} {kind : Kind} (token : IsToken policy word kind)
  (place : Place)

include token

theorem lastPlace_occurrence_lt :
    (place.occurrence word kind).lastPlace < place.after word := by
  have positive := List.length_pos_iff.mpr token.ne_nil
  rw [Place.after_of_not_mem token.lineFeed_not_mem]
  refine .inr ⟨rfl, ?_⟩
  show place.column + word.length - 1 < place.column + word.length
  omega

/-- A token covers the places of its characters. -/
theorem covers_occurrence {before later : List Char} {char : Char}
    (splits : word = before ++ char :: later) :
    (place.occurrence word kind).Covers (place.after before) := by
  have oneLine : '\n' ∉ before := by
    intro member
    exact token.lineFeed_not_mem (splits ▸ List.mem_append_left _ member)
  refine ⟨place.le_after before, ?_⟩
  rw [Place.after_of_not_mem oneLine]
  refine .inr ⟨rfl, ?_⟩
  show place.column + before.length ≤ place.column + word.length - 1
  rw [splits, List.length_append, List.length_cons]
  omega

/-- **A token stands in the text that it was read off.** -/
theorem standsIn {text before later : List Char} (splits : text = before ++ (word ++ later)) :
    ((Place.start.after before).occurrence word kind).StandsIn text := by
  have positive := List.length_pos_iff.mpr token.ne_nil
  obtain ⟨line, column⟩ := Place.one_le_after_start before
  have length : (Place.start.after before).column + word.length - 1 -
      (Place.start.after before).column + 1 = word.length := by
    omega
  refine ⟨line, column, ?_, ?_, ?_, ?_⟩
  · show (Place.start.after before).column ≤ (Place.start.after before).column + word.length - 1
    omega
  · exact length.trans String.length_ofList.symm
  · show (String.ofList word).toList = (restOfLine text (Place.start.after before)).take
      ((Place.start.after before).column + word.length - 1 -
        (Place.start.after before).column + 1)
    rw [length, splits, restOfLine_after, firstLine_append token.lineFeed_not_mem,
      List.take_left, String.toList_ofList]
  · show ∀ char ∈ (String.ofList word).toList, isBlank char = false
    rw [String.toList_ofList]
    exact token.not_isBlank

end IsToken

/-! ## Going through the rules -/

/-- A character of a text in two parts stands in the first or in the second. -/
theorem cases_of_append_eq {first second before later : List Char} {char : Char}
    (same : first ++ second = before ++ char :: later) :
    (∃ more, first = before ++ char :: more) ∨
      ∃ between, before = first ++ between ∧ second = between ++ char :: later := by
  rcases List.append_eq_append_iff.mp same with ⟨between, inSecond, rest⟩ | ⟨more, inFirst, rest⟩
  · exact .inr ⟨between, inSecond, rest⟩
  · cases more with
    | nil => exact .inr ⟨[], by simp [inFirst], rest.symm⟩
    | cons front more =>
      obtain ⟨rfl, _⟩ := List.cons.inj rest
      exact .inl ⟨more, inFirst⟩

namespace Tokenizes

variable {policy : Policy} {place : Place} {text : List Char} {transcript : Transcript}

theorem le_firstPlace (rules : Tokenizes policy place text transcript) {occurrence : Occurrence}
    (member : occurrence ∈ transcript.occurrences) : place ≤ occurrence.firstPlace := by
  obtain ⟨before, word, later, kind, _, _, rfl⟩ := rules.exists_of_mem_occurrences member
  exact place.le_after before

theorem le_place (rules : Tokenizes policy place text transcript) {complaint : Complaint}
    (member : complaint ∈ transcript.complaints) : place ≤ complaint.place := by
  obtain ⟨before, later, word, kind, _, _, rfl⟩ := rules.exists_of_mem_complaints member
  exact place.le_after before

/-- **Tokens follow each other without overlapping.** -/
theorem inOrder (rules : Tokenizes policy place text transcript) :
    transcript.occurrences.Pairwise fun earlier later =>
      earlier.lastPlace < later.firstPlace := by
  induction rules with
  | ended => exact List.Pairwise.nil
  | blank _ _ ih => exact ih
  | @token place word later kind transcript found rest ih =>
    refine List.pairwise_cons.mpr ⟨?_, ih⟩
    intro occurrence member
    exact Place.lt_of_lt_of_le ((isToken_of_front found).1.lastPlace_occurrence_lt place)
      (rest.le_firstPlace member)
  | comment _ _ _ _ ih => exact ih
  | illegal => exact List.Pairwise.nil

/-- **A complaint is made behind all tokens.** -/
theorem lastPlace_lt_place (rules : Tokenizes policy place text transcript)
    {occurrence : Occurrence} (member : occurrence ∈ transcript.occurrences)
    {complaint : Complaint} (complains : complaint ∈ transcript.complaints) :
    occurrence.lastPlace < complaint.place := by
  induction rules with
  | ended => cases member
  | blank _ _ ih => exact ih member complains
  | @token place word later kind transcript found rest ih =>
    rcases List.mem_cons.mp member with rfl | member
    · exact Place.lt_of_lt_of_le ((isToken_of_front found).1.lastPlace_occurrence_lt place)
        (rest.le_place complains)
    · exact ih member complains
  | comment _ _ _ _ ih => exact ih member complains
  | illegal => cases member

/-- Nothing stands on the line that a line feed ends. -/
theorem lt_line_of_lineFeed {more : List Char}
    (rules : Tokenizes policy place ('\n' :: more) transcript) :
    (∀ occurrence ∈ transcript.occurrences, place.line < occurrence.line) ∧
      ∀ complaint ∈ transcript.complaints, place.line < complaint.line := by
  have rest : Tokenizes policy (place.next '\n') more transcript := by
    have same := rules.tokenize_eq
    rw [tokenize_of_isBlank _ (by decide)] at same
    exact tokenizes_iff.mpr same
  constructor
  · intro occurrence member
    have behind := rest.le_firstPlace member
    rw [Place.next_lineFeed, Place.le_def] at behind
    simp only [Occurrence.firstPlace] at behind
    omega
  · intro complaint member
    have behind := rest.le_place member
    rw [Place.next_lineFeed, Place.le_def] at behind
    simp only [Complaint.place] at behind
    omega


/-- Behind a comment that reaches the end of its line, nothing stands on that
line. -/
theorem lt_line_of_comment {line later : List Char}
    (rules : Tokenizes policy (place.after line) later transcript) (oneLine : '\n' ∉ line)
    (ends : later = [] ∨ ∃ more, later = '\n' :: more) :
    (∀ occurrence ∈ transcript.occurrences, place.line < occurrence.line) ∧
      ∀ complaint ∈ transcript.complaints, place.line < complaint.line := by
  rcases ends with rfl | ⟨more, rfl⟩
  · have nothing := rules.tokenize_eq
    rw [tokenize_nil] at nothing
    subst nothing
    exact ⟨nofun, nofun⟩
  · rw [Place.after_of_not_mem oneLine] at rules
    exact rules.lt_line_of_lineFeed

/-- The characters of a comment stand in it. -/
theorem commentOpen_of_comment {line rest before more later : List Char} {char : Char}
    (rules : Tokenizes policy (place.after line) rest transcript)
    (found : front policy (line ++ rest) = .comment) (oneLine : '\n' ∉ line)
    (ends : rest = [] ∨ ∃ more, rest = '\n' :: more)
    (splits : line ++ rest = before ++ char :: later) (inLine : line = before ++ char :: more) :
    transcript.CommentOpen place before (char :: later) := by
  obtain ⟨occurrences, complaints⟩ := rules.lt_line_of_comment oneLine ends
  have slashes := slashes_of_front found
  rw [splits] at slashes
  have onLine : '\n' ∉ before := by
    intro member
    exact oneLine (inLine ▸ List.mem_append_left _ member)
  refine ⟨[], before, rfl, onLine, slashes, ?_, complaints⟩
  intro occurrence member same
  exact absurd same (Nat.ne_of_gt (occurrences occurrence member))

/-- **What is neither covered by a token nor behind a complaint is blank or stands
in a comment.** -/
theorem covered (rules : Tokenizes policy place text transcript) {before later : List Char}
    {char : Char} (splits : text = before ++ char :: later)
    (ahead : ∀ complaint ∈ transcript.complaints, place.after before < complaint.place)
    (free : ∀ occurrence ∈ transcript.occurrences, ¬occurrence.Covers (place.after before)) :
    isBlank char ∨ transcript.CommentOpen place before (char :: later) := by
  induction rules generalizing before with
  | ended => exact absurd splits.symm (by simp)
  | @blank place first rest transcript blank _ ih =>
    cases before with
    | nil =>
      obtain ⟨rfl, _⟩ := List.cons.inj splits
      exact .inl blank
    | cons front before =>
      obtain ⟨rfl, rest'⟩ := List.cons.inj splits
      apply (ih rest' ahead free).imp_right
      intro (opened : transcript.CommentOpen (place.after [first]) before (char :: later))
      exact opened.append
  | @token place word rest kind transcript found _ ih =>
    have token := (isToken_of_front found).1
    rcases cases_of_append_eq splits with ⟨more, inWord⟩ | ⟨between, rfl, behind⟩
    · -- A character of the token is covered by it.
      exact absurd (token.covers_occurrence place inWord) (free _ List.mem_cons_self)
    · rw [Place.after_append] at ahead free
      have freeRest : ∀ occurrence ∈ transcript.occurrences,
          ¬occurrence.Covers ((place.after word).after between) := by
        intro occurrence member
        exact free occurrence (List.mem_cons_of_mem _ member)
      apply (ih behind ahead freeRest).imp_right
      intro opened
      exact (opened.preceded (token.lastPlace_occurrence_lt place)).append
  | @comment place line rest transcript found oneLine ends rules ih =>
    rcases cases_of_append_eq splits with ⟨more, inLine⟩ | ⟨between, rfl, behind⟩
    · exact .inr (rules.commentOpen_of_comment found oneLine ends splits inLine)
    · rw [Place.after_append] at ahead free
      apply (ih behind ahead free).imp_right
      intro opened
      exact opened.append
  | @illegal place text word kind found =>
    have late := ahead _ List.mem_cons_self
    exact absurd late (Place.not_lt_of_le (place.le_after before))

/-- What is complained of stands in the text. -/
theorem complaint_standsIn (rules : Tokenizes policy .start text transcript)
    {complaint : Complaint} (complains : complaint ∈ transcript.complaints) :
    complaint.StandsIn text := by
  obtain ⟨before, later, word, kind, splits, found, rfl⟩ := rules.exists_of_mem_complaints complains
  obtain ⟨_, nonempty, begins, noBlank⟩ := illegal_of_front found
  obtain ⟨line, column⟩ := Place.one_le_after_start before
  have oneLine : '\n' ∉ word := by
    intro member
    exact absurd (noBlank '\n' member) (by decide)
  refine ⟨line, column, mt String.ofList_eq_empty_iff.mp nonempty, ?_⟩
  show (String.ofList word).toList <+: _
  rw [String.toList_ofList]
  exact begins_restOfLine splits begins oneLine

/-- **A transcript accounts for the text that it was read off.** -/
theorem tiles (rules : Tokenizes policy .start text transcript) : Tiles text transcript where
  tokens := by
    intro occurrence member
    obtain ⟨before, word, later, kind, splits, token, rfl⟩ := rules.exists_of_mem_occurrences member
    exact token.standsIn splits
  inOrder := rules.inOrder
  complaints := by
    intro complaint complains
    refine ⟨rules.complaint_standsIn complains, ?_⟩
    intro occurrence member
    exact rules.lastPlace_lt_place member complains
  covered _ _ _ splits := rules.covered splits

end Tokenizes

/-! ## The token that marks the end -/

theorem max_one {number : UInt32} (positive : 1 ≤ number.toNat) : max number 1 = number := by
  show (if number ≤ 1 then 1 else number) = number
  split
  · rename_i small
    have large : (1 : UInt32) ≤ number := UInt32.le_iff_toNat_le.mpr positive
    exact UInt32.le_antisymm large small
  · rfl

/-- A session over a text reads a beginning of it, with all tokens in it. -/
theorem LineReader.exists_reaches_ofText (text : String) (policy : Policy) :
    ∃ read, read <+: text.toList ∧
      ((Session.new (ofText text) policy).drain (.new 0)).Reaches policy read := by
  have running : (Session.new (ofText text) policy).ending = none := rfl
  have outlook : (Session.new (ofText text) policy).input.outlook =
      .placed (Place.start.after []) text.toList
        (lastPosition .origin (locate .start text.toList)) := by
    have shown := Lookahead.outlook_ofSource (ofText text)
    rwa [deliver_ofText] at shown
  have reads : (Session.new (ofText text) policy).input.HasRead text.toList
      ([] : List Char).length := by
    refine ⟨[], text.toList, rfl, Nat.le_refl _, ?_, rfl⟩
    show (Source.deliver (ofText text)).characters = _
    rw [deliver_ofText]
    rfl
  obtain ⟨read, begins, _, reaches⟩ :=
    Session.exists_reaches_drain running (SymbolTable.spelled_new 0) outlook reads rfl
  exact ⟨read, begins, reaches⟩

/-- The place of the token that marks the end is the one behind the last character
that was read, on its line. -/
theorem Session.Drained.Reaches.place_last {σ : Type} {drained : Session.Drained σ}
    {policy : Policy} {before : List Char} {char : Char}
    (reaches : drained.Reaches policy (before ++ [char]))
    (line : (Place.start.after before).line < 2 ^ 32)
    (column : (Place.start.after before).column + 1 < 2 ^ 32) :
    drained.last.line.toNat = (Place.start.after before).line ∧
      drained.last.left.toNat = (Place.start.after before).column + 1 := by
  have last := lastPosition_locate .origin .start before char
  have lineNumber := Place.toNat_line_position line
  have columnNumber := Place.toNat_column_position (Nat.lt_of_succ_lt column)
  have positive : 1 ≤ (Place.start.after before).position.line.toNat := by
    rw [lineNumber]
    exact (Place.one_le_after_start before).1
  constructor
  · rw [reaches.line, last, max_one positive, lineNumber]
  · rw [reaches.left, last, toNat_nextColumn (columnNumber ▸ column), columnNumber]

/-- A token in what was read ends no later than the last character of that. -/
theorem IsToken.lastPlace_le {policy : Policy} {word : List Char} {kind : Kind}
    (token : IsToken policy word kind) {before read : List Char} {char : Char}
    (begins : before ++ word <+: read ++ [char]) :
    ((Place.start.after before).occurrence word kind).lastPlace ≤ Place.start.after read := by
  have positive := List.length_pos_iff.mpr token.ne_nil
  have oneLine : '\n' ∉ word.dropLast := by
    intro member
    exact token.lineFeed_not_mem (List.mem_of_mem_dropLast member)
  have inside : before ++ word.dropLast <+: read := by
    have whole : before ++ word.dropLast <+: read ++ [char] :=
      List.IsPrefix.trans ((List.prefix_append_right_inj _).mpr word.dropLast_prefix) begins
    have length := begins.length_le
    refine List.prefix_of_prefix_length_le whole (List.prefix_append _ _) ?_
    simp only [List.length_append, List.length_dropLast, List.length_singleton] at length ⊢
    omega
  have reached := Place.start.after_le_after inside
  rw [Place.after_append, Place.after_of_not_mem oneLine, List.length_dropLast,
    ← Nat.add_sub_assoc positive] at reached
  exact reached

section Lines

variable {text : List Char} (fewLines : (wholeLines text).length < 2 ^ 32)
  (shortLines : ∀ line ∈ wholeLines text, line.length < 2 ^ 32 - 1)

include fewLines shortLines

theorem fits_wholeLines : Fits .start text := by
  intro before char later whole
  obtain ⟨line, column⟩ := place_fits_wholeLines fewLines shortLines whole
  refine ⟨line, Nat.lt_of_succ_lt column, ?_⟩
  intro _
  exact column

/-- **The token that marks the end stands behind all others.** -/
theorem Session.Drained.Reaches.lastPlace_lt {σ : Type} {drained : Session.Drained σ}
    {policy : Policy} {read : List Char} (reaches : drained.Reaches policy read)
    (inside : read <+: text) {token : Token} (member : token ∈ drained.tokens) :
    token.occurrence.lastPlace < ⟨drained.last.line.toNat, drained.last.left.toNat⟩ := by
  obtain ⟨before, word, kind, isToken, begins, said⟩ := reaches.tokens token member
  have someRead : read ≠ [] := by
    rintro rfl
    exact isToken.ne_nil (List.append_eq_nil_iff.mp (List.prefix_nil.mp begins)).2
  obtain ⟨earlier, char, rfl⟩ := (List.eq_nil_or_concat' read).resolve_left someRead
  obtain ⟨rest, whole⟩ := inside
  obtain ⟨more, whole'⟩ := begins.trans ⟨rest, whole⟩
  rw [List.append_assoc] at whole whole'
  obtain ⟨line, column⟩ := place_fits_wholeLines fewLines shortLines whole.symm
  obtain ⟨lastLine, lastLeft⟩ := reaches.place_last line column
  have fits := fits_wholeLines fewLines shortLines
  rw [← whole'] at fits
  rw [said, fits.append.bounded_occurrence isToken.ne_nil isToken.lineFeed_not_mem, lastLine,
    lastLeft]
  exact Place.lt_of_le_of_lt (isToken.lastPlace_le begins) (.inr ⟨rfl, Nat.lt_succ_self _⟩)

end Lines

/-- **The tokens of a text tile it,** if it has fewer than `2 ^ 32` lines, each
shorter than `2 ^ 32 - 1` with what ends it; and the token that marks the end
stands behind the last character of every other token. -/
theorem tiles_lex (text : String) (policy : Policy)
    (fewLines : (wholeLines text.toList).length < 2 ^ 32)
    (shortLines : ∀ line ∈ wholeLines text.toList, line.length < 2 ^ 32 - 1) :
    let drained := (Session.new (LineReader.ofText text) policy).drain (.new 0)
    Tiles text.toList (lex text policy).transcript ∧
      drained.tokens = (lex text policy).tokens ∧ drained.last.isEnd ∧
      ∀ token ∈ drained.tokens,
        token.occurrence.lastPlace < ⟨drained.last.line.toNat, drained.last.left.toNat⟩ := by
  intro drained
  have fits := fits_wholeLines fewLines shortLines
  have tiles := (tokenizes policy .start text.toList).tiles
  rw [← fits.bounded_tokenize policy, ← transcript_lex_eq_bounded] at tiles
  obtain ⟨read, begins, reaches⟩ := LineReader.exists_reaches_ofText text policy
  refine ⟨tiles, rfl, reaches.marks, ?_⟩
  intro token member
  exact reaches.lastPlace_lt fewLines shortLines begins member

/-- A comment between tokens, and a date that is not accepted behind it. -/
theorem tiles_lex_comment :
    let text := "n <= 7/x // t\n 1/2-24"
    let drained := (Session.new (LineReader.ofText text) ⟨.split, true⟩).drain (.new 0)
    (wholeLines text.toList).length < 2 ^ 32 ∧
      (∀ line ∈ wholeLines text.toList, line.length < 2 ^ 32 - 1) ∧
      Tiles text.toList
        ⟨[⟨"n", .identifier, 1, 1, 1⟩, ⟨"<=", .operator .lessEqual, 1, 3, 4⟩,
            ⟨"7", .integer, 1, 6, 6⟩, ⟨"/", .operator .divide, 1, 7, 7⟩,
            ⟨"x", .identifier, 1, 8, 8⟩],
          .illegalLiteral, [⟨.illegalLiteral, "1/2-24", 2, 2⟩]⟩ ∧
      ∀ token ∈ drained.tokens,
        token.occurrence.lastPlace < ⟨drained.last.line.toNat, drained.last.left.toNat⟩ := by
  intro text drained
  have fewLines : (wholeLines text.toList).length < 2 ^ 32 := by
    decide +kernel
  have shortLines : ∀ line ∈ wholeLines text.toList, line.length < 2 ^ 32 - 1 := by
    decide +kernel
  obtain ⟨tiles, _, _, ends⟩ := tiles_lex text ⟨.split, true⟩ fewLines shortLines
  rw [transcript_lex_eq_bounded] at tiles
  refine ⟨fewLines, shortLines, ?_, ends⟩
  convert tiles using 1
  decide +kernel

end Lexis
