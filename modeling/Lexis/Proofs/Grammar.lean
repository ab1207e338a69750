import Lexis.Proofs.Fronts

/-!
# The transcript of a text, rule by rule

The tokenizer is a recursion that asks at each step what stands at the front of
the text that remains. The same as a judgement: `Tokenizes policy place text
transcript` says that a text whose first character is at a place has a
transcript, by one rule for each thing that can stand at the front. The text of a
rule is written out as the part that is read and the part that remains, so
nothing is dropped and nothing is read twice.

The two agree (`tokenizes_iff`). What holds of transcripts is therefore proved by
going through five rules: every occurrence is a token that stands in the text
where the transcript says so (`Tokenizes.exists_of_mem_occurrences`), and what a
transcript complains of is no token where it stands
(`Tokenizes.exists_of_mem_complaints`).
-/

namespace Lexis

set_option autoImplicit false

/-- A transcript of a text whose first character is at a place. A comment is
read up to the end of its line, and the line feed remains. -/
inductive Tokenizes (policy : Policy) : Place → List Char → Transcript → Prop
  | ended {place : Place} : Tokenizes policy place [] ⟨[], .exhausted, []⟩
  | blank {place : Place} {first : Char} {later : List Char} {transcript : Transcript} :
      isBlank first → Tokenizes policy (place.next first) later transcript →
      Tokenizes policy place (first :: later) transcript
  | token {place : Place} {word later : List Char} {kind : Kind} {transcript : Transcript} :
      front policy (word ++ later) = .token word kind →
      Tokenizes policy (place.after word) later transcript →
      Tokenizes policy place (word ++ later) (transcript.preceded (place.occurrence word kind))
  | comment {place : Place} {line later : List Char} {transcript : Transcript} :
      front policy (line ++ later) = .comment → '\n' ∉ line →
      (later = [] ∨ ∃ more, later = '\n' :: more) →
      Tokenizes policy (place.after line) later transcript →
      Tokenizes policy place (line ++ later) transcript
  | illegal {place : Place} {text word : List Char} {kind : Diagnostic.Kind} :
      front policy text = .illegal kind word →
      Tokenizes policy place text (.stopped place kind word)

/-! ## Steps of the tokenizer -/

section Steps

variable {policy : Policy} {text : List Char} (place : Place)

theorem tokenize_nil : tokenize policy place [] = ⟨[], .exhausted, []⟩ := by
  rw [tokenize]

theorem tokenize_of_isBlank {first : Char} (blank : isBlank first) (later : List Char) :
    tokenize policy place (first :: later) = tokenize policy (place.next first) later := by
  rw [tokenize]
  exact if_pos blank

theorem tokenize_of_token {word : List Char} {kind : Kind}
    (found : front policy text = .token word kind) :
    tokenize policy place text =
      (tokenize policy (place.after word) (text.drop word.length)).preceded
        (place.occurrence word kind) := by
  cases frontCase_of_eq found with
  | word other starts =>
    rw [tokenize]
    simp only [if_neg other, dif_pos starts]
  | @accept first later length kind other starts digit verdict =>
    rw [tokenize, Literal.length_take_of_accept verdict]
    simp only [if_neg other, dif_neg starts, dif_pos digit]
    split
    · rename_i judged
      rw [verdict] at judged
      cases judged
      rfl
    · rename_i judged
      rw [verdict] at judged
      cases judged
  | mark other starts digit lasts recognised =>
    rw [tokenize]
    simp only [if_neg other, dif_neg starts, dif_neg digit, recognised]

theorem tokenize_of_comment (found : front policy text = .comment) :
    tokenize policy place text =
      tokenize policy ⟨place.line + 1, 1⟩ ((text.dropWhile (· != '\n')).drop 1) := by
  cases frontCase_of_eq found with
  | comment other starts digit recognised =>
    rw [tokenize]
    simp only [if_neg other, dif_neg starts, dif_neg digit, recognised]

theorem tokenize_of_illegal {word : List Char} {kind : Diagnostic.Kind}
    (found : front policy text = .illegal kind word) :
    tokenize policy place text = .stopped place kind word := by
  cases frontCase_of_eq found with
  | reject other starts digit verdict =>
    rw [tokenize]
    simp only [if_neg other, dif_neg starts, dif_pos digit]
    split
    · rename_i judged
      rw [verdict] at judged
      cases judged
    · rename_i judged
      rw [verdict] at judged
      cases judged
      rfl
  | unknown other starts digit recognised =>
    rw [tokenize]
    simp only [if_neg other, dif_neg starts, dif_neg digit, recognised]

end Steps

/-! ## The rules and the tokenizer -/

/-- The rest of a line, and what remains of the text behind it. -/
theorem cut_at_lineFeed (text : List Char) :
    '\n' ∉ text.takeWhile (· != '\n') ∧
      (text.dropWhile (· != '\n') = [] ∨ ∃ more, text.dropWhile (· != '\n') = '\n' :: more) := by
  constructor
  · intro member
    exact absurd (List.mem_takeWhile_imp member) (by decide)
  · cases behind : text.dropWhile (· != '\n') with
    | nil => exact .inl rfl
    | cons feed more =>
      have isFeed : feed = '\n' := by
        simpa [behind] using List.head?_dropWhile_not (· != '\n') text
      exact .inr ⟨more, by rw [isFeed]⟩

/-- What follows the rest of a line is found at the next line feed. -/
theorem dropWhile_line_append {line later : List Char} (oneLine : '\n' ∉ line)
    (ends : later = [] ∨ ∃ more, later = '\n' :: more) :
    (line ++ later).dropWhile (· != '\n') = later := by
  have all : ∀ char ∈ line, (char != '\n') = true := by
    intro char member
    rw [bne_iff_ne]
    rintro rfl
    exact oneLine member
  rw [List.dropWhile_append_of_pos all]
  rcases ends with rfl | ⟨more, rfl⟩
  · rfl
  · exact List.dropWhile_cons_of_neg (by decide)

/-- From the end of a comment the tokenizer goes on with the line feed, as with
any blank. -/
theorem tokenize_comment_append {policy : Policy} {place : Place} {line later : List Char}
    (found : front policy (line ++ later) = .comment) (oneLine : '\n' ∉ line)
    (ends : later = [] ∨ ∃ more, later = '\n' :: more) :
    tokenize policy place (line ++ later) = tokenize policy (place.after line) later := by
  rw [tokenize_of_comment place found, dropWhile_line_append oneLine ends,
    Place.after_of_not_mem oneLine]
  rcases ends with rfl | ⟨more, rfl⟩
  · rw [List.drop_nil, tokenize_nil, tokenize_nil]
  · rw [tokenize_of_isBlank _ (by decide) more, Place.next_lineFeed]
    rfl

theorem Tokenizes.tokenize_eq {policy : Policy} {place : Place} {text : List Char}
    {transcript : Transcript} (tokenizes : Tokenizes policy place text transcript) :
    tokenize policy place text = transcript := by
  induction tokenizes with
  | ended => exact tokenize_nil _
  | blank blank _ ih => rw [tokenize_of_isBlank _ blank, ih]
  | token found _ ih => rw [tokenize_of_token _ found, List.drop_left, ih]
  | comment found oneLine ends _ ih => rw [tokenize_comment_append found oneLine ends, ih]
  | illegal found => exact tokenize_of_illegal _ found

/-- A comment takes characters off the text. -/
theorem length_lt_of_front_comment {policy : Policy} {text : List Char}
    (found : front policy text = .comment) :
    (text.dropWhile (· != '\n')).length < text.length := by
  obtain ⟨later, rfl⟩ := slashes_of_front found
  have fewer := (List.dropWhile_sublist (l := '/' :: later) (· != '\n')).length_le
  rw [List.cons_append, List.cons_append, List.nil_append,
    List.dropWhile_cons_of_pos (by decide)]
  simp only [List.length_cons] at fewer ⊢
  omega

/-- **The tokenizer follows the rules.** -/
theorem tokenizes (policy : Policy) (place : Place) (text : List Char) :
    Tokenizes policy place text (tokenize policy place text) := by
  cases found : front policy text with
  | ended =>
    rw [front_eq_ended_iff.mp found, tokenize_nil]
    exact .ended
  | blank =>
    obtain ⟨first, later, whole, blank⟩ := exists_cons_of_front_blank found
    have shorter : later.length < text.length := by
      rw [whole]
      exact Nat.lt_succ_self _
    rw [whole, tokenize_of_isBlank _ blank]
    exact .blank blank (tokenizes policy _ later)
  | token word kind =>
    obtain ⟨token, later, whole⟩ := isToken_of_front found
    have shorter : later.length < text.length := by
      have positive := List.length_pos_iff.mpr token.ne_nil
      rw [← whole, List.length_append]
      omega
    rw [← whole] at found ⊢
    rw [tokenize_of_token _ found, List.drop_left]
    exact .token found (tokenizes policy _ later)
  | comment =>
    obtain ⟨oneLine, ends⟩ := cut_at_lineFeed text
    have whole := List.takeWhile_append_dropWhile (p := (· != '\n')) (l := text)
    have shorter := length_lt_of_front_comment found
    rw [← whole] at found ⊢
    rw [tokenize_comment_append found oneLine ends]
    exact .comment found oneLine ends (tokenizes policy _ _)
  | illegal kind word =>
    rw [tokenize_of_illegal _ found]
    exact .illegal found
termination_by text.length
decreasing_by all_goals exact shorter

/-- **A text has the transcript that the tokenizer reads off it, and no other.** -/
theorem tokenizes_iff {policy : Policy} {place : Place} {text : List Char}
    {transcript : Transcript} :
    Tokenizes policy place text transcript ↔ tokenize policy place text = transcript := by
  constructor
  · exact Tokenizes.tokenize_eq
  · rintro rfl
    exact tokenizes policy place text

namespace Tokenizes

variable {policy : Policy} {place : Place} {text : List Char} {transcript : Transcript}

/-! ## What a transcript says -/

/-- **Every occurrence is a token that stands in the text at the place
stated.** -/
theorem exists_of_mem_occurrences (tokenizes : Tokenizes policy place text transcript)
    {occurrence : Occurrence} (member : occurrence ∈ transcript.occurrences) :
    ∃ before word later kind, text = before ++ (word ++ later) ∧ IsToken policy word kind ∧
      occurrence = (place.after before).occurrence word kind := by
  induction tokenizes with
  | ended => cases member
  | @blank place first _ _ _ _ ih =>
    obtain ⟨before, word, later, kind, rfl, token, rfl⟩ := ih member
    exact ⟨first :: before, word, later, kind, rfl, token, rfl⟩
  | @token place word later kind transcript found _ ih =>
    rcases List.mem_cons.mp member with rfl | member
    · exact ⟨[], word, later, kind, rfl, (isToken_of_front found).1, rfl⟩
    · obtain ⟨before, next, later, kind, rfl, token, rfl⟩ := ih member
      exact ⟨word ++ before, next, later, kind, (List.append_assoc _ _ _).symm, token,
        by rw [Place.after_append]⟩
  | @comment place line _ _ _ _ _ _ ih =>
    obtain ⟨before, word, later, kind, rfl, token, rfl⟩ := ih member
    exact ⟨line ++ before, word, later, kind, (List.append_assoc _ _ _).symm, token,
      by rw [Place.after_append]⟩
  | illegal => cases member

/-- **Every complaint quotes a text that is no token where it stands.** -/
theorem exists_of_mem_complaints (tokenizes : Tokenizes policy place text transcript)
    {complaint : Complaint} (member : complaint ∈ transcript.complaints) :
    ∃ before later word kind, text = before ++ later ∧
      front policy later = .illegal kind word ∧
      complaint = ⟨kind, String.ofList word, (place.after before).line,
        (place.after before).column⟩ := by
  induction tokenizes with
  | ended => cases member
  | @blank place first _ _ _ _ ih =>
    obtain ⟨before, later, word, kind, rfl, found, rfl⟩ := ih member
    exact ⟨first :: before, later, word, kind, rfl, found, rfl⟩
  | @token place front' _ _ _ _ _ ih =>
    obtain ⟨before, later, word, kind, rfl, found, rfl⟩ := ih member
    exact ⟨front' ++ before, later, word, kind, (List.append_assoc _ _ _).symm, found,
      by rw [Place.after_append]⟩
  | @comment place line _ _ _ _ _ _ ih =>
    obtain ⟨before, later, word, kind, rfl, found, rfl⟩ := ih member
    exact ⟨line ++ before, later, word, kind, (List.append_assoc _ _ _).symm, found,
      by rw [Place.after_append]⟩
  | @illegal place text word kind found =>
    rw [List.mem_singleton.mp member]
    exact ⟨[], text, word, kind, rfl, found, rfl⟩

end Tokenizes

end Lexis
