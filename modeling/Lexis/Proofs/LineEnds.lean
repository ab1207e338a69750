import Lexis.Files.Tree
import Lexis.Lex
import Lexis.Proofs.FileRuns
import Lexis.Proofs.Tokenizer

/-!
# Both ends of lines

A line may end with a line feed or with a carriage return and a line feed. Put a carriage
return before each line feed of a text: nothing that is said about the text changes
(`lex_withReturns`). To the tokenizer a carriage return is a blank at the end of its line.
It ends what the line feed behind it would have ended (`front_withReturns`), it stands in
the comment that runs to the end of the line, and it moves only the column of the line
feed, where no token and no complaint stands.

A listing leaves carriage returns out for a reason of its own: they belong to the ends of
lines, and lines are shown without their ends. So the two texts have the same lines as
long as none of these ends with a carriage return that is part of it
(`lines_withReturns`), and runs over two files that hold the texts write the same.
-/

namespace Lexis

set_option autoImplicit false

/-- A text with a carriage return put before each line feed. -/
def withReturns (text : List Char) : List Char :=
  text.flatMap fun char => if char = '\n' then ['\r', '\n'] else [char]

@[simp]
theorem withReturns_nil : withReturns [] = [] :=
  rfl

@[simp]
theorem withReturns_append (first second : List Char) :
    withReturns (first ++ second) = withReturns first ++ withReturns second :=
  List.flatMap_append

theorem withReturns_lineFeed (later : List Char) :
    withReturns ('\n' :: later) = '\r' :: '\n' :: withReturns later :=
  rfl

theorem withReturns_of_not_mem {text : List Char} (absent : '\n' ∉ text) :
    withReturns text = text := by
  induction text with
  | nil => rfl
  | cons char later ih =>
    rw [List.mem_cons, not_or] at absent
    have other : char ≠ '\n' := Ne.symm absent.1
    rw [withReturns, List.flatMap_cons, if_neg other]
    exact congrArg (char :: ·) (ih absent.2)

theorem isBlank_return : isBlank '\r' = true := by
  decide +kernel

theorem isBlank_lineFeed : isBlank '\n' = true := by
  decide +kernel

/-! ## Tokens -/

variable {policy : Policy}

/-- **What stands at the front of a text stands there with carriage returns.** The first
line of a text decides what stands at its front, and either end of the line is a blank. -/
theorem front_withReturns (text : List Char) :
    front policy (withReturns text) = front policy text := by
  by_cases feeds : '\n' ∈ text
  · obtain ⟨line, later, rfl, oneLine⟩ := List.eq_append_cons_of_mem feeds
    rw [withReturns_append, withReturns_of_not_mem oneLine, withReturns_lineFeed]
    by_cases empty : line = []
    · subst empty
      exact (front_of_isBlank isBlank_return).trans (front_of_isBlank isBlank_lineFeed).symm
    · rw [front_append_blank isBlank_return empty, front_append_blank isBlank_lineFeed empty]
  · rw [withReturns_of_not_mem feeds]

/-- A carriage return is skipped, and the line feed behind it starts the next line in any
column. -/
theorem tokenize_returnFeed (policy : Policy) (place : Place) (later : List Char) :
    tokenize policy place ('\r' :: '\n' :: later) =
      tokenize policy ⟨place.line + 1, 1⟩ later := by
  rw [tokenize_of_isBlank _ isBlank_return, tokenize_of_isBlank _ isBlank_lineFeed,
    Place.next_lineFeed, Place.next_of_ne (by decide)]

/-- **The tokenizer reads the same off a text with carriage returns.** -/
theorem tokenize_withReturns (policy : Policy) (place : Place) (text : List Char) :
    tokenize policy place (withReturns text) = tokenize policy place text := by
  have rules := tokenizes policy place text
  generalize tokenize policy place text = transcript at rules
  induction rules with
  | ended => exact tokenize_nil _
  | @blank place first later _ blank _ ih =>
    by_cases isFeed : first = '\n'
    · subst isFeed
      rw [withReturns_lineFeed, tokenize_returnFeed, ← Place.next_lineFeed, ih]
    · have whole : withReturns (first :: later) = first :: withReturns later :=
        congrArg (· ++ withReturns later) (if_neg isFeed)
      rw [whole, tokenize_of_isBlank _ blank, ih]
  | @token place word later kind _ found _ ih =>
    have oneLine := (isToken_of_front found).1.lineFeed_not_mem
    rw [← front_withReturns, withReturns_append, withReturns_of_not_mem oneLine] at found
    rw [withReturns_append, withReturns_of_not_mem oneLine, tokenize_of_token _ found,
      List.drop_left, ih]
  | @comment place line later _ found oneLine ends _ ih =>
    rw [← front_withReturns, withReturns_append, withReturns_of_not_mem oneLine] at found
    rw [withReturns_append, withReturns_of_not_mem oneLine]
    rcases ends with rfl | ⟨more, rfl⟩
    · rw [withReturns_nil] at ih found ⊢
      rw [tokenize_comment_append found oneLine (.inl rfl), ih]
    · -- The carriage return before the line feed is in the comment as well.
      have longer : line ++ withReturns ('\n' :: more) =
          (line ++ ['\r']) ++ '\n' :: withReturns more := by
        rw [withReturns_lineFeed, List.append_assoc]
        rfl
      have oneLine' : '\n' ∉ line ++ ['\r'] := by simpa using oneLine
      rw [longer] at found ⊢
      rw [tokenize_comment_append found oneLine' (.inr ⟨_, rfl⟩), Place.after_append, ← ih,
        withReturns_lineFeed, tokenize_of_isBlank _ isBlank_return]
      rfl
  | illegal found => exact tokenize_of_illegal _ (by rwa [front_withReturns])

/-- A text with carriage returns lexes to the same output. -/
theorem lex_ofList_withReturns (text : String) (policy : Policy) :
    lex (String.ofList (withReturns text.toList)) policy = lex text policy := by
  apply lexWith_eq_of_transcript
  have said : (lex (String.ofList (withReturns text.toList)) policy).transcript =
      (lex text policy).transcript := by
    rw [transcript_lex_eq_bounded, transcript_lex_eq_bounded, String.toList_ofList,
      tokenize_withReturns]
  exact said

/-! ## Lines -/

/-- **A text without carriage returns has the same lines when it is given some.** -/
theorem lines_withReturns {text : List Char} (noReturn : '\r' ∉ text) :
    lines (withReturns text) = lines text := by
  rw [← inLines_iff]
  have inLines := inLines_lines text
  generalize lines text = rows at inLines
  induction inLines with
  | nil => exact .nil
  | last nonempty oneLine =>
    rw [withReturns_of_not_mem oneLine]
    exact .last nonempty oneLine
  | lineFeed oneLine _ _ ih =>
    rw [withReturns_append, withReturns_of_not_mem oneLine, withReturns_lineFeed]
    refine .returnFeed oneLine (ih fun member => noReturn ?_)
    exact List.mem_append_right _ (List.mem_cons_of_mem _ member)
  | returnFeed => simp at noReturn

/-! ## Runs over files -/

/-- A file that holds a text without carriage returns is listed as one that holds it
with them. -/
theorem Files.listed_withReturns {files files' : Files} {path path' : String} {text : List Char}
    (found : files path = .ok (.file (Utf8.encode text)))
    (found' : files' path' = .ok (.file (Utf8.encode (withReturns text))))
    (noReturn : '\r' ∉ text) (options : Options) :
    files'.listed path' options = files.listed path options := by
  rw [Files.listed_of_file found, Files.listed_of_file found', Utf8.decodeLossy_encode,
    Utf8.decodeLossy_encode, listing, listing, lines_withReturns noReturn]

/-- **Which end the lines have does not matter.** A text and the text with a carriage
return before each line feed are lexed to the same output. If the first has no carriage
return, then runs over two files that hold the two texts come to the same result, and
they write the same to any device. -/
theorem lex_withReturns (text : String) (options : Options) :
    let returns := String.ofList (withReturns text.toList)
    lex returns options.policy = lex text options.policy ∧
      ('\r' ∉ text.toList → ∀ (files files' : Files) (path path' : String) (sink : Sink),
        files path = .ok (.file (Utf8.encode text.toList)) →
          files' path' = .ok (.file (Utf8.encode returns.toList)) →
            let run := lexFile files path options sink
            let run' := lexFile files' path' options sink
            run'.sink.contents = run.sink.contents ∧ run'.result = run.result) := by
  intro returns
  have same : lex returns options.policy = lex text options.policy :=
    lex_ofList_withReturns text options.policy
  refine ⟨same, ?_⟩
  intro noReturn files files' path path' sink found found' run run'
  have opened := Files.openSource_eq_ok_iff.mpr ⟨_, found, rfl⟩
  have opened' := Files.openSource_eq_ok_iff.mpr ⟨_, found', rfl⟩
  rw [String.toList_ofList] at found'
  have listed := Files.listed_withReturns found found' noReturn options
  obtain ⟨result, written⟩ := lexFile_congr opened' opened same listed sink
  exact ⟨congrArg Sink.contents written, result⟩

/-- A comment, a literal that a separator dangles from and an unknown character, each at
the end of a line, written to a device with room for a part of it. -/
theorem lex_withReturns_dangling :
    let text := "n // t\n3/\n?"
    let returns := String.ofList (withReturns text.toList)
    let files := FileTree.files (.directory
      [("f", .file (Utf8.encode text.toList)), ("g", .file (Utf8.encode returns.toList))])
    let full := Sink.empty (some 200) false
    (lex text {}).tokens.map Token.text = ["n", "3", "/"] ∧ lex returns {} = lex text {} ∧
      '\r' ∉ text.toList ∧ files "f" = .ok (.file (Utf8.encode text.toList)) ∧
      files "g" = .ok (.file (Utf8.encode returns.toList)) ∧
      (lexFile files "g" {} full).sink.contents = (lexFile files "f" {} full).sink.contents := by
  intro text returns files full
  obtain ⟨same, runs⟩ := lex_withReturns text {}
  have noReturn : '\r' ∉ text.toList := by decide +kernel
  have found : files "f" = .ok (.file (Utf8.encode text.toList)) := by decide +kernel
  have found' : files "g" = .ok (.file (Utf8.encode returns.toList)) := by decide +kernel
  exact ⟨by decide +kernel, same, noReturn, found, found',
    (runs noReturn files files "f" "g" full found found').1⟩

end Lexis
