import Lexis.Proofs.Faults
import Lexis.Proofs.FileRuns
import Lexis.Proofs.Listings
import Lexis.Proofs.Tiling

/-!
# Places in a dump point into the listing

A run over a file reads it twice. The session reads strictly, line by line, and gets
the longest beginning of the file that is well-formed. The listing reads leniently
and shows the whole file. Both see the same beginning, and so what the session says
of it is true of the listing: each token stands on the row of its line in its columns,
and so does what a diagnostic quotes. Where the session stops at bytes that are no
character, the listing shows a replacement character at that place
(`lexFile_listed`).

If the session uses the file up, the token that marks the end stands on the line of
the last character (`Session.line_drain_of_exhausted`), and that is the last row.
-/

namespace Lexis

set_option autoImplicit false

/-! ## Sessions that use up their input -/

theorem Ending.not_lexical_exhausted : ¬Ending.exhausted.Lexical := by
  rintro ⟨_, ⟨⟩, _⟩

theorem Ending.termination_eq_exhausted_iff {ending : Ending} :
    ending.termination = .exhausted ↔ ending = .exhausted := by
  cases ending with
  | exhausted => exact ⟨fun _ => rfl, fun _ => rfl⟩
  | stopped diagnostic =>
    exact ⟨fun ends => absurd ends diagnostic.kind.termination_ne_exhausted, nofun⟩

namespace Outlook

/-- A pass keeps the position of the last character, and nothing is left in view
where it finds that the input is used up. -/
theorem last_pass (outlook : Outlook) (policy : Policy) :
    (outlook.pass policy).2.last = outlook.last ∧
      ((outlook.pass policy).1 = some (.over .exhausted) →
        (outlook.pass policy).2.characters = []) := by
  cases outlook.passCase policy with
  | nil _ passed =>
    rw [passed]
    exact ⟨rfl, fun _ => rfl⟩
  | word _ _ passed =>
    rw [passed]
    exact ⟨rfl, nofun⟩
  | @literal start _ _ _ _ passed =>
    have goesOn := (literal_goesOn (outlook.dropWhile fun next => isBlank next.char) policy
      start).1 .exhausted
    rw [passed]
    refine ⟨?_, fun used => absurd (goesOn (Option.some.inj used)) Ending.not_lexical_exhausted⟩
    unfold literal
    dsimp only
    split <;> rfl
  | @operator start _ _ _ _ passed =>
    have goesOn := (operator_goesOn (outlook.dropWhile fun next => isBlank next.char)
      start).1 .exhausted
    rw [passed]
    refine ⟨?_, fun used => absurd (goesOn used) Ending.not_lexical_exhausted⟩
    unfold operator
    dsimp only
    split <;> rfl

theorem last_scan (outlook : Outlook) (policy : Policy) :
    (outlook.scan policy).2.last = outlook.last ∧
      ((outlook.scan policy).1 = .over .exhausted → (outlook.scan policy).2.characters = []) := by
  fun_induction scan outlook policy with
  | case1 outlook finding next passed =>
    obtain ⟨last, used⟩ := outlook.last_pass policy
    rw [passed] at last used
    exact ⟨last, fun found => used (congrArg some found)⟩
  | case2 outlook next passed ih =>
    have last := (outlook.last_pass policy).1
    rw [passed] at last
    exact ⟨ih.1.trans last, ih.2⟩

end Outlook

/-- An input with nothing in view has drawn its last character. -/
theorem Lookahead.last_outlook_of_nil {σ : Type} [Source σ] {input : Lookahead σ}
    (nothing : input.outlook.characters = []) : input.outlook.last = input.last := by
  have drawn : input.toDraw.characters = [] := (List.append_eq_nil_iff.mp nothing).2
  rw [outlook, drawn]
  rfl

/-- **The token that marks the end of a used up input stands on the line of its last
character.** -/
theorem Session.line_drain_of_exhausted {σ : Type} [Source σ] {session : Session σ}
    {table : SymbolTable} (running : session.ending = none) (spelled : table.Spelled)
    (used : (session.input.outlook.lexemes session.policy).2 = .exhausted) :
    (session.drain table).last.line = max session.input.outlook.last.line 1 := by
  obtain ⟨same, left⟩ := session.input.scan_eq session.policy
  obtain ⟨last, usedUp⟩ := session.input.outlook.last_scan session.policy
  rcases found : session.input.scan session.policy with ⟨⟨start, text, kind⟩ | ending, input⟩
  · rw [found] at same left
    have looks := spelled_of_scan found
    have goesOn := SymbolTable.isEnd_issue spelled looks
    have spelledRest := spelled.issue looks
    have pulled := next_of_lexeme running found table
    have smaller := Lookahead.size_lt_of_scan found
    have stillOpen : Session.ending { session with input } = none := running
    rw [Outlook.lexemes_of_lexeme (Prod.ext same.symm left.symm)] at used
    generalize table.issue ⟨start, text, kind⟩ = issued at goesOn spelledRest pulled
    have rest := line_drain_of_exhausted stillOpen spelledRest used
    rw [drain_of_goesOn (by rw [pulled]; exact goesOn), pulled, ← last, ← left]
    exact rest
  · rw [found] at same left
    have marks : (session.next table).token.isEnd = true := by
      rw [next_of_over running found]
      rfl
    rw [Outlook.lexemes_of_over (Prod.ext same.symm left.symm)] at used
    subst used
    have nothing := usedUp same.symm
    rw [← left] at nothing last
    rw [drain_of_isEnd marks, next_of_over running found, ← last,
      Lookahead.last_outlook_of_nil nothing]
    rfl
termination_by session.input.size
decreasing_by exact smaller

/-! ## Lexing bytes -/

section Bytes

variable (content : List UInt8) (policy : Policy)

/-- What is in view at the start of bytes is their longest well-formed beginning, and
a fault at its end if there is more. -/
theorem outlook_ofBytes :
    let text := (Utf8.decode content).text
    let last := lastPosition .origin (locate .start text)
    ∃ fault, (Lookahead.ofSource (LineReader.ofStream [.bytes content])).outlook =
        (Outlook.placed .start text last).withEnd fault last ∧
      (fault = none ∧ Utf8.remainder content = [] ∨
        (∃ cause, fault = some (.reading (Place.start.after text).position cause)) ∧
          Utf8.remainder content ≠ []) := by
  intro text last
  have readable : ByteStream.readable [.bytes content] = content := List.append_nil content
  have ends := @ByteStream.cause?_eq_none_iff [.bytes content]
  rw [readable] at ends
  refine ⟨(ByteStream.cause? [.bytes content]).map (.reading (Place.start.after text).position),
    ?_, ?_⟩
  · rw [Lookahead.outlook_ofSource, LineReader.deliver_ofStream, readable]
    rfl
  · cases found : ByteStream.cause? [.bytes content] with
    | none => exact .inl ⟨rfl, (ends.mp found).1⟩
    | some cause =>
      refine .inr ⟨⟨cause, rfl⟩, fun empty => ?_⟩
      rw [ends.mpr ⟨empty, rfl⟩] at found
      cases found

/-- **Lexing bytes finds the lexemes of the longest well-formed beginning.** They end
where that ends if it is all there is, or with a fault at its end if it is not, or
before with a text that is no token. -/
theorem lexemes_ofBytes :
    let text := (Utf8.decode content).text
    let view := (Lookahead.ofSource (LineReader.ofStream [.bytes content])).outlook
    let lexemes := view.lexemes policy
    let transcript := (tokenize policy .start text).bounded
    lexemes.1.map Lexeme.occurrence = transcript.occurrences ∧
      (lexemes.2 = .exhausted ∧ Utf8.remainder content = [] ∨
        (∃ cause, lexemes.2 = .stopped (.ofFault (.reading (Place.start.after text).position cause)
          (Place.start.after text).position)) ∧ Utf8.remainder content ≠ [] ∨
        lexemes.2.Lexical ∧
          lexemes.2.diagnostics.map Diagnostic.complaint = transcript.complaints) := by
  intro text view lexemes transcript
  obtain ⟨fault, outlook, ended⟩ := outlook_ofBytes content
  have read : Transcript.ofLexemes
      ((Outlook.placed .start text (lastPosition .origin (locate .start text))).lexemes policy) =
      transcript := ofLexemes_placed_eq_bounded policy .start text _
  obtain ⟨same, ends⟩ := Outlook.lexemes_withEnd fault
    (lastPosition .origin (locate .start text))
    (.placed .start text (lastPosition .origin (locate .start text))) policy
  rw [← outlook] at same ends
  refine ⟨(congrArg (List.map Lexeme.occurrence) same).trans
    (congrArg Transcript.occurrences read), ?_⟩
  rcases ends with ⟨_, used⟩ | ⟨lexical, stops⟩
  · replace used := used.trans (congrArg Outlook.ending outlook)
    rcases ended with ⟨rfl, complete⟩ | ⟨⟨cause, rfl⟩, more⟩
    · exact .inl ⟨used, complete⟩
    · exact .inr (.inl ⟨⟨cause, used⟩, more⟩)
  · rw [← stops] at lexical
    refine .inr (.inr ⟨lexical, ?_⟩)
    exact (congrArg (fun ending => ending.diagnostics.map Diagnostic.complaint) stops).trans
      (congrArg Transcript.complaints read)

variable {content policy}

/-- Bytes that are used up are well formed to their end. -/
theorem remainder_of_exhausted
    (used : ((Lookahead.ofSource (LineReader.ofStream [.bytes content])).outlook.lexemes
      policy).2 = .exhausted) : Utf8.remainder content = [] := by
  rcases (lexemes_ofBytes content policy).2 with
    ⟨_, complete⟩ | ⟨⟨cause, ends⟩, _⟩ | ⟨lexical, _⟩
  · exact complete
  · cases ends.symm.trans used
  · rw [used] at lexical
    exact absurd lexical Ending.not_lexical_exhausted

/-- The last position in view is that of the last character. -/
theorem last_outlook_ofBytes {before : List Char} {char : Char}
    (whole : (Utf8.decode content).text = before ++ [char]) :
    (Lookahead.ofSource (LineReader.ofStream [.bytes content])).outlook.last =
      (Place.start.after before).position := by
  obtain ⟨fault, outlook, _⟩ := outlook_ofBytes content
  refine (congrArg Outlook.last outlook).trans ?_
  rw [whole]
  exact lastPosition_locate .origin .start before char

end Bytes

/-! ## What a listing shows at the places of a text -/

/-- Whether a listing shows a token in its columns. -/
def Token.ShownIn (token : Token) (printed : List String) : Prop :=
  Shows printed token.line.toNat token.left.toNat token.right.toNat token.text.toList

namespace Diagnostic

/-- The characters to be seen where a diagnostic points: the text at fault, or a
replacement character for bytes that are no character. -/
def pointed (diagnostic : Diagnostic) : List Char :=
  match diagnostic.kind with
  | .illegalCharacter => diagnostic.text.toList
  | .illegalLiteral => diagnostic.text.toList
  | .sourceFault => [Utf8.replacement]

theorem pointed_of_ne {diagnostic : Diagnostic} (lexical : diagnostic.kind ≠ .sourceFault) :
    diagnostic.pointed = diagnostic.text.toList := by
  cases kind : diagnostic.kind with
  | sourceFault => exact absurd kind lexical
  | _ => rw [pointed, kind]

/-- Whether a listing shows these characters from where a diagnostic points. -/
def ShownIn (diagnostic : Diagnostic) (printed : List String) : Prop :=
  let column := diagnostic.position.column.toNat
  Shows printed diagnostic.position.line.toNat column (column + diagnostic.pointed.length - 1)
    diagnostic.pointed

end Diagnostic

section Transcripts

variable {text tail : List Char} {policy : Policy}
  (fewLines : (lines (text ++ tail)).length < 2 ^ 32)
  (shortLines : ∀ line ∈ lines (text ++ tail), line.length < 2 ^ 32 - 1)

include fewLines shortLines

/-- **A listing that goes on behind a text shows the tokens of the text** where the
transcript says that they stand. -/
theorem shows_occurrence {occurrence : Occurrence}
    (member : occurrence ∈ (tokenize policy .start text).bounded.occurrences) :
    Shows (listing (text ++ tail)) occurrence.line occurrence.left occurrence.right
      occurrence.text.toList := by
  obtain ⟨_, read, rfl⟩ := List.mem_map.mp member
  obtain ⟨before, word, later, kind, rfl, token, rfl⟩ :=
    (tokenizes policy .start text).exists_of_mem_occurrences read
  rw [List.append_assoc, List.append_assoc] at fewLines shortLines ⊢
  obtain ⟨line, column⟩ :=
    place_fits_lines token.ne_nil token.not_isBlank rfl fewLines shortLines
  rw [Place.bounded_occurrence kind line column]
  simp only [Place.occurrence, String.toList_ofList]
  exact shows_listing token.ne_nil token.not_isBlank (later ++ tail)

/-- It shows what the transcript complains of, too. -/
theorem shows_complaint {complaint : Complaint}
    (member : complaint ∈ (tokenize policy .start text).bounded.complaints) :
    Shows (listing (text ++ tail)) complaint.line complaint.column
      (complaint.column + complaint.text.toList.length - 1) complaint.text.toList := by
  obtain ⟨_, read, rfl⟩ := List.mem_map.mp member
  obtain ⟨before, later, word, kind, rfl, found, rfl⟩ :=
    (tokenizes policy .start text).exists_of_mem_complaints read
  obtain ⟨_, nonempty, ⟨rest, rfl⟩, noBlank⟩ := illegal_of_front found
  rw [List.append_assoc, List.append_assoc] at fewLines shortLines ⊢
  obtain ⟨line, column⟩ := place_fits_lines nonempty noBlank rfl fewLines shortLines
  rw [Complaint.bounded_eq line (Nat.lt_of_le_of_lt (Nat.le_add_right _ _) column)]
  simp only [String.toList_ofList]
  exact shows_listing nonempty noBlank (rest ++ tail)

end Transcripts

/-- A listing shows a character that is no blank at the place behind what stands
before it. -/
theorem shows_position {text later : List Char} {char : Char} (noBlank : isBlank char = false)
    (fewLines : (lines (text ++ char :: later)).length < 2 ^ 32)
    (shortLines : ∀ line ∈ lines (text ++ char :: later), line.length < 2 ^ 32 - 1) :
    let position := (Place.start.after text).position
    Shows (listing (text ++ char :: later)) position.line.toNat position.column.toNat
      position.column.toNat [char] := by
  intro position
  have alone : ∀ next ∈ [char], isBlank next = false := by simpa using noBlank
  obtain ⟨line, column⟩ := place_fits_lines (List.cons_ne_nil char []) alone rfl fewLines shortLines
  rw [Place.toNat_line_position line, Place.toNat_column_position (Nat.lt_of_succ_lt column)]
  exact shows_listing (List.cons_ne_nil char []) alone later

/-! ## Sessions over bytes -/

/-- A session over bytes, with a table of its own, drained. -/
def Session.Drained.ofBytes (content : List UInt8) (policy : Policy) :
    Session.Drained LineReader :=
  (Session.new (LineReader.ofStream [.bytes content]) policy).drain (.new 0)

namespace Session.Drained

variable (content : List UInt8) (policy : Policy)

/-- A session over bytes hands out the lexemes in view at their start, and ends as
they end. -/
theorem ofBytes_eq :
    let view := (Lookahead.ofSource (LineReader.ofStream [.bytes content])).outlook
    let lexemes := view.lexemes policy
    (ofBytes content policy).tokens.map Token.occurrence = lexemes.1.map Lexeme.occurrence ∧
      (ofBytes content policy).session.ending = some lexemes.2 := by
  intro view lexemes
  have running : (Session.new (LineReader.ofStream [.bytes content]) policy).ending = none := rfl
  obtain ⟨tokens, ended⟩ := Session.drain_eq running (SymbolTable.spelled_new 0)
  refine ⟨?_, ended⟩
  rw [ofBytes, tokens]
  exact SymbolTable.map_occurrence_issueAll (SymbolTable.spelled_new 0)
    (Outlook.spelled_of_lexemes _ policy)

variable {content policy} (fewLines : (lines (Utf8.decodeLossy content)).length < 2 ^ 32)
  (shortLines : ∀ line ∈ lines (Utf8.decodeLossy content), line.length < 2 ^ 32 - 1)

include fewLines shortLines

/-- **The listing of bytes shows the tokens of their session.** -/
theorem shownIn_of_mem_tokens {token : Token} (member : token ∈ (ofBytes content policy).tokens) :
    token.ShownIn (listing (Utf8.decodeLossy content)) := by
  have said := List.mem_map_of_mem (f := Token.occurrence) member
  rw [(ofBytes_eq content policy).1, (lexemes_ofBytes content policy).1] at said
  rw [Utf8.decodeLossy_eq_append] at fewLines shortLines ⊢
  exact shows_occurrence fewLines shortLines said

/-- **The listing of bytes shows what the diagnostics of their session point to.** -/
theorem shownIn_of_mem_diagnostics {diagnostic : Diagnostic}
    (member : diagnostic ∈ (ofBytes content policy).session.diagnostics) :
    diagnostic.ShownIn (listing (Utf8.decodeLossy content)) := by
  rw [Session.diagnostics, (ofBytes_eq content policy).2] at member
  rcases (lexemes_ofBytes content policy).2 with
    ⟨used, _⟩ | ⟨⟨cause, ends⟩, more⟩ | ⟨⟨only, ends, lexical⟩, complaints⟩
  · rw [used] at member
    cases member
  -- behind the text stands what the bytes past it are shown as
  · rw [ends] at member
    rw [List.mem_singleton.mp member]
    obtain ⟨_, later, whole⟩ := (Utf8.decodeLossy_eq content).resolve_left (more ·.1)
    rw [whole] at fewLines shortLines ⊢
    exact shows_position (by decide +kernel) fewLines shortLines
  -- the text itself has what it is complained of
  · rw [ends] at member complaints
    obtain rfl := List.mem_singleton.mp member
    have said := List.mem_map_of_mem (f := Diagnostic.complaint) member
    rw [Utf8.decodeLossy_eq_append] at fewLines shortLines ⊢
    rw [Diagnostic.ShownIn, Diagnostic.pointed_of_ne lexical]
    exact shows_complaint fewLines shortLines (complaints ▸ said)

omit shortLines in
/-- **Where a session uses up bytes, the token that marks the end stands on the last
row of their listing.** -/
theorem line_last_of_exhausted (nonempty : content ≠ [])
    (used : (ofBytes content policy).summary.termination = .exhausted) :
    (ofBytes content policy).last.line.toNat = (listing (Utf8.decodeLossy content)).length := by
  have running : (Session.new (LineReader.ofStream [.bytes content]) policy).ending = none := rfl
  rw [summary, Session.termination?, (ofBytes_eq content policy).2] at used
  have exhausted := Ending.termination_eq_exhausted_iff.mp used
  have complete := remainder_of_exhausted exhausted
  have shown := (Utf8.decodeLossy_eq content).resolve_right (·.1 complete)
  obtain ⟨before, char, whole⟩ := Utf8.exists_text_eq_concat nonempty complete
  have rows : (listing (Utf8.decodeLossy content)).length = (Place.start.after before).line := by
    rw [shown.2, whole, length_listing_append_singleton]
  rw [← List.length_mapIdx (f := fun index => listingLine (index + 1))] at fewLines
  have number := Place.toNat_line_position (rows ▸ fewLines)
  have line := Session.line_drain_of_exhausted running (SymbolTable.spelled_new 0) exhausted
  have last : (Session.new (LineReader.ofStream [.bytes content]) policy).input.outlook.last =
      (Place.start.after before).position := last_outlook_ofBytes whole
  have positive : 1 ≤ (Place.start.after before).position.line.toNat := by
    rw [number]
    exact (Place.one_le_after_start before).1
  rw [ofBytes, line, last, max_one positive, number, rows]

end Session.Drained

/-! ## Whole runs -/

/-- **The places that a run over a file reports point into the listing it prints.**
Whatever the bytes of the file and the policy, as long as the file has fewer than
`2 ^ 32` lines, each shorter than `2 ^ 32 - 1`: on a device that takes everything, the
run writes the rows of its tokens, its diagnostics and then the listing. Each token
stands on the row of its line in its columns. What a diagnostic quotes begins where it
points; where it points to bytes that are no character, a replacement character
stands. If the session uses up a file that is not empty, the token that marks the end
is on the last row. -/
theorem lexFile_listed {files : Files} {path : String} {content : List UInt8} {options : Options}
    {sink : Sink} (found : files path = .ok (.file content)) (listed : options.listing = true)
    (unfailing : sink.Unfailing) (fewLines : (lines (Utf8.decodeLossy content)).length < 2 ^ 32)
    (shortLines : ∀ line ∈ lines (Utf8.decodeLossy content), line.length < 2 ^ 32 - 1) :
    let drained := Session.Drained.ofBytes content options.policy
    let printed := listing (Utf8.decodeLossy content)
    let run := lexFile files path options sink
    run.result = .ok drained.summary ∧
      run.sink.contents = sink.contents ++ bytesOf (drained.report ++ printed) ∧
      (∀ token ∈ drained.tokens, token.ShownIn printed) ∧
      (∀ diagnostic ∈ drained.summary.diagnostics, diagnostic.ShownIn printed) ∧
      (drained.summary.termination = .exhausted → content ≠ [] →
        drained.last.isEnd ∧ drained.last.line.toNat = printed.length) := by
  intro drained printed run
  obtain ⟨result, contents, _⟩ := lexFile_of_file found unfailing options
  rw [if_pos listed] at contents
  refine ⟨result, contents, fun token => Session.Drained.shownIn_of_mem_tokens fewLines shortLines,
    fun diagnostic => Session.Drained.shownIn_of_mem_diagnostics fewLines shortLines, ?_⟩
  intro used nonempty
  exact ⟨Session.isEnd_last_drain _ _,
    Session.Drained.line_last_of_exhausted fewLines nonempty used⟩

/-- A file with carriage returns that stops in its second line, at a byte that is no
character, and the same file up to there. -/
theorem lexFile_listed_carriage_returns :
    let content : List UInt8 := [0x61, 0x0D, 0x0A, 0x0D, 0x62, 0x63, 0xFF, 0x0D, 0x0A, 0x64]
    let printed := ["  1: a\n", "  2: \rbc\uFFFD\n", "  3: d\n"]
    let broken := Session.Drained.ofBytes content {}
    let whole := Session.Drained.ofBytes (content.take 6) {}
    ((lexFile (fun _ => .ok (.file content)) "program" {} .unbounded).sink.contents =
        bytesOf (broken.report ++ printed) ∧
      broken.tokens.map Token.occurrence =
        [⟨"a", .identifier, 1, 1, 1⟩, ⟨"bc", .identifier, 2, 2, 3⟩] ∧
      (∀ token ∈ broken.tokens, token.ShownIn printed) ∧
      (broken.summary.diagnostics.map fun diagnostic => (diagnostic.kind, diagnostic.position)) =
        [(.sourceFault, ⟨2, 4⟩)] ∧
      ∀ diagnostic ∈ broken.summary.diagnostics, diagnostic.ShownIn printed) ∧
    (lexFile (fun _ => .ok (.file (content.take 6))) "program" {} .unbounded).result =
        .ok whole.summary ∧
      whole.summary.termination = .exhausted ∧ whole.last.line.toNat = 2 := by
  intro content printed broken whole
  have shown : listing (Utf8.decodeLossy content) = printed := by decide +kernel
  obtain ⟨_, contents, tokens, diagnostics, _⟩ :=
    @lexFile_listed (fun _ => .ok (.file content)) "program" content {} .unbounded rfl rfl
      ⟨rfl, rfl⟩ (by decide +kernel) (by decide +kernel)
  obtain ⟨result, _, _, _, last⟩ :=
    @lexFile_listed (fun _ => .ok (.file (content.take 6))) "program" (content.take 6) {}
      .unbounded rfl rfl ⟨rfl, rfl⟩ (by decide +kernel) (by decide +kernel)
  have used : whole.summary.termination = .exhausted := by decide +kernel
  have fresh : Sink.unbounded.contents = [] := rfl
  rw [shown, fresh, List.nil_append] at contents
  rw [shown] at tokens diagnostics
  refine ⟨⟨contents, by decide +kernel, tokens, by decide +kernel, diagnostics⟩, result, used, ?_⟩
  exact (last used (by decide)).2.trans (by decide +kernel)

end Lexis
