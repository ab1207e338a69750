import Lexis.Proofs.Drawing
import Lexis.Proofs.Tokenizer

/-!
# How far a session reads

An input over a text has read a beginning of the text, and it knows the position
of the last character of that beginning (`Lookahead.HasRead`). Looking ahead
makes the beginning longer and nothing makes it shorter, so every scan keeps this.

The token that marks the end of a session is placed behind the character that was
read last. That character stands behind or at the end of every token, whatever
was looked at and given back on the way (`Session.exists_reach_drain`).
-/

namespace Lexis

set_option autoImplicit false

/-! ## Reading a beginning of a text -/

namespace Lookahead

variable {σ : Type} [Source σ]

/-- An input that has read the beginning of a text, with at least so many
characters, and has the others still to draw. -/
def HasRead (whole : List Char) (count : Nat) (input : Lookahead σ) : Prop :=
  ∃ read later, whole = read ++ later ∧ count ≤ read.length ∧
    input.toDraw.characters = locate (Place.start.after read) later ∧
    input.last = lastPosition .origin (locate .start read)

/-- **Drawing reads on in the text.** -/
theorem HasRead.draw {whole : List Char} {count : Nat} {input : Lookahead σ}
    (reads : input.HasRead whole count) : input.draw.2.HasRead whole count := by
  obtain ⟨read, later, splits, long, toCome, last⟩ := reads
  rcases answer : input.draw with ⟨_ | drawn, next⟩
  · obtain ⟨draws, _⟩ := draws_of_draw_none answer
    exact ⟨read, later, splits, long, draws.characters.symm.trans toCome, draws.last.trans last⟩
  · have draws := draws_of_draw answer
    have shown := draws.characters
    rw [toCome] at shown
    cases later with
    | nil => cases shown
    | cons char more =>
      obtain ⟨rfl, rest⟩ := List.cons.inj shown
      refine ⟨read ++ [char], more, ?_, ?_, ?_, ?_⟩
      · rw [splits, List.append_assoc]
        rfl
      · rw [List.length_append]
        exact Nat.le_add_right_of_le long
      · rw [Place.after_append]
        exact rest.symm
      · rw [locate_append, lastPosition_append, ← last]
        exact draws.last

theorem invariant_hasRead (whole : List Char) (count : Nat) :
    Invariant (HasRead whole count : Lookahead σ → Prop) where
  draw reads := reads.draw
  window reads _ := reads
  fault reads := reads

/-- What is no longer in view has been read. -/
theorem HasRead.of_outlook {before later whole : List Char} {count : Nat} {input : Lookahead σ}
    (reads : input.HasRead whole count) {place : Place} {last : Position}
    (shown : input.outlook = .placed place later last) (splits : whole = before ++ later) :
    input.HasRead whole before.length := by
  obtain ⟨read, rest, splits', _, toCome, last⟩ := reads
  refine ⟨read, rest, splits', ?_, toCome, last⟩
  have inView : (input.window ++ input.toDraw.characters).length = (locate place later).length :=
    congrArg (List.length ∘ Outlook.characters) shown
  have same := congrArg List.length (splits.symm.trans splits')
  rw [toCome] at inView
  simp only [List.length_append, length_locate] at inView same
  omega

end Lookahead

/-! ## Scanning placed text -/

/-- **A scan of placed text finds a token of the text where it stands,** and leaves
the text behind it. -/
theorem Outlook.exists_of_scan_placed {policy : Policy} {place : Place} {text word : List Char}
    {last start : Position} {looks : Kind} {next : Outlook}
    (found : (placed place text last).scan policy = (.lexeme start word looks, next)) :
    ∃ skipped later kind, text = skipped ++ (word ++ later) ∧ IsToken policy word kind ∧
      start = (place.after skipped).position ∧
      next = placed (place.after (skipped ++ word)) later last := by
  have rules := tokenizes policy place text
  generalize tokenize policy place text = transcript at rules
  induction rules with
  | ended =>
    rw [scan_of_some (pass_of_nil policy rfl)] at found
    cases found
  | @blank place first rest transcript blank _ ih =>
    rw [scan_placed_of_isBlank blank] at found
    obtain ⟨skipped, later, kind, rfl, token, rfl, rfl⟩ := ih found
    exact ⟨first :: skipped, later, kind, rfl, token, rfl, rfl⟩
  | token shown _ _ =>
    obtain ⟨looks, passed⟩ := pass_placed_of_front shown last
    rw [scan_of_some passed, List.drop_left] at found
    cases found
    exact ⟨[], _, _, rfl, (isToken_of_front shown).1, rfl, rfl⟩
  | @comment place line rest transcript shown oneLine ends _ ih =>
    rw [scan_placed_of_comment shown oneLine ends] at found
    obtain ⟨skipped, later, kind, rfl, token, rfl, rfl⟩ := ih found
    refine ⟨line ++ skipped, later, kind, (List.append_assoc _ _ _).symm, token, ?_, ?_⟩
    · rw [Place.after_append]
    · simp only [Place.after_append]
  | illegal shown =>
    rw [scan_of_some (Prod.ext (pass_placed_of_illegal shown last) rfl)] at found
    cases found

/-! ## Draining a session -/

namespace Session

variable {σ : Type} [Source σ]

/-- What was pulled from a session that has read the beginning of a text: the
token that marks the end stands behind the last character of that beginning, and
all other tokens stand in it. -/
structure Drained.Reaches (drained : Drained σ) (policy : Policy) (read : List Char) : Prop where
  marks : drained.last.isEnd
  line : drained.last.line = max (lastPosition .origin (locate .start read)).line 1
  left : drained.last.left = nextColumn (lastPosition .origin (locate .start read)).column
  tokens : ∀ token ∈ drained.tokens, ∃ before word kind, IsToken policy word kind ∧
    before ++ word <+: read ∧
      token.occurrence = ((Place.start.after before).occurrence word kind).bounded

omit [Source σ] in
/-- The token of a lexeme in the text that is read is one more to pull. -/
theorem Drained.Reaches.after {drained : Drained σ} {policy : Policy} {read : List Char}
    (reaches : drained.Reaches policy read) {before word : List Char} {kind : Kind}
    (isToken : IsToken policy word kind) (begins : before ++ word <+: read) {token : Token}
    (said : token.occurrence = ((Place.start.after before).occurrence word kind).bounded)
    (events : List Event) : (drained.after [token] events).Reaches policy read where
  marks := reaches.marks
  line := reaches.line
  left := reaches.left
  tokens := by
    intro pulled member
    rcases List.mem_cons.mp member with rfl | member
    · exact ⟨before, word, kind, isToken, begins, said⟩
    · exact reaches.tokens pulled member

/-- A session that finds the end has read what it had read before, or more. -/
theorem exists_reaches_drain_of_over {whole : List Char} {count : Nat} {session : Session σ}
    {input : Lookahead σ} {ending : Ending} (running : session.ending = none)
    (found : session.input.scan session.policy = (.over ending, input))
    (reads : input.HasRead whole count) (table : SymbolTable) :
    ∃ read, read <+: whole ∧ count ≤ read.length ∧
      (session.drain table).Reaches session.policy read := by
  have marks : (session.next table).token.isEnd = true := by
    rw [next_of_over running found]
    rfl
  obtain ⟨read, later, splitRead, long, _, lastRead⟩ := reads
  rw [drain_of_isEnd marks, next_of_over running found]
  refine ⟨read, ⟨later, splitRead.symm⟩, long, rfl, ?_, ?_, nofun⟩
  · rw [← lastRead]
    rfl
  · rw [← lastRead]
    rfl

/-- **A session hands out tokens of what it has read, and the token that marks the
end stands behind that.** -/
theorem exists_reaches_drain {whole before text : List Char} {session : Session σ}
    {table : SymbolTable} {last : Position} (running : session.ending = none)
    (spelled : table.Spelled)
    (outlook : session.input.outlook = .placed (Place.start.after before) text last)
    (reads : session.input.HasRead whole before.length) (splits : whole = before ++ text) :
    ∃ read, read <+: whole ∧ before.length ≤ read.length ∧
      (session.drain table).Reaches session.policy read := by
  obtain ⟨same, left⟩ := session.input.scan_eq session.policy
  have scanned := (Lookahead.invariant_hasRead whole _).scan reads session.policy
  rcases found : session.input.scan session.policy with ⟨⟨start, word, looks⟩ | ending, input⟩
  · rw [found, outlook] at same left
    rw [found] at scanned
    have smaller := Lookahead.size_lt_of_scan found
    have looks' := spelled_of_scan found
    obtain ⟨skipped, later, kind, rfl, isToken, rfl, rest⟩ :=
      Outlook.exists_of_scan_placed (Prod.ext same.symm left.symm)
    rw [← Place.after_append] at found looks'
    have shown : input.outlook =
        .placed (Place.start.after (before ++ skipped ++ word)) later last := by
      rw [List.append_assoc, Place.after_append]
      exact rest
    have splitRest : whole = (before ++ skipped ++ word) ++ later := by
      rw [splits]
      simp only [List.append_assoc]
    have said := SymbolTable.occurrence_issue spelled looks'
    have goesOn := SymbolTable.isEnd_issue spelled looks'
    have spelledRest := spelled.issue looks'
    have pulled := next_of_lexeme running found table
    generalize table.issue _ = issued at said goesOn spelledRest pulled
    have stillOpen : Session.ending { session with input } = none := running
    obtain ⟨read, begins, long, reaches⟩ := exists_reaches_drain stillOpen spelledRest shown
      (scanned.of_outlook shown splitRest) splitRest
    -- The token is consumed when it is handed out, so it is part of what is read by then.
    have inside : before ++ skipped ++ word <+: read :=
      List.prefix_of_prefix_length_le ⟨later, splitRest.symm⟩ begins long
    rw [occurrence_position looks isToken.ofText_eq] at said
    rw [drain_of_goesOn (by rw [pulled]; exact goesOn), pulled]
    refine ⟨read, begins, ?_, reaches.after isToken inside said _⟩
    simp only [List.length_append] at long
    omega
  · rw [found] at scanned
    exact exists_reaches_drain_of_over running found scanned table
termination_by session.input.size
decreasing_by exact smaller

end Session

end Lexis
