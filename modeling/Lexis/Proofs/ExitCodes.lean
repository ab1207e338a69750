import Lexis.Command.Line
import Lexis.Proofs.FileReports
import Lexis.Proofs.ShownPlaces

/-!
# Exit codes

The exit code of the lexing command is zero just where its arguments name a file that
holds a text, and the text is lexed to its end (`runCommandLine_lex_exact`). Everything
between the arguments and the code has a part in this, and each part has its own way to
fail: arguments fail by misuse alone (`Arguments.misuse_of_parse`), a run over files fails
because its source cannot be opened or because it is a directory that is to be listed
(`lexFile_result_eq_error_iff`), and a run that does not fail has used up its file only if
the bytes of the file are well formed (`lexFile_exhausted_iff`).

What the errors of the command say tells these ends apart. They say nothing where the run
did its work and the file was not lexed to its end, and where it did not do its work they
are the wording of the error, with the usage behind it after a misuse.
-/

namespace Lexis

set_option autoImplicit false

/-! ## Errors -/

/-- An error of wrong use: a path is missing, or an option is unknown. -/
def CommandError.Misuse (error : CommandError) : Prop :=
  error = .missingPath ∨ ∃ option, error = .unknownOption option

theorem CommandError.isMisuse_iff {error : CommandError} :
    error.isMisuse = true ↔ error.Misuse := by
  cases error <;> simp [isMisuse, Misuse]

/-- A file that fails is no misuse of the command. -/
theorem CommandError.isMisuse_ofFailure (path : String) (failure : Failure) :
    (ofFailure path failure).isMisuse = false := by
  unfold ofFailure
  split <;> rfl

/-- Arguments that make no sense are a misuse of the command, whatever was read before. -/
theorem Arguments.misuse_of_parseFrom {options : Options} {path : Option String}
    {arguments : List String} {error : CommandError}
    (failed : parseFrom options path arguments = .error error) : error.Misuse := by
  induction arguments generalizing options path with
  | nil =>
    cases path with
    | some path => cases failed
    | none =>
      cases failed
      exact .inl rfl
  | cons argument later ih =>
    rw [parseFrom] at failed
    split at failed
    · exact ih failed
    · split at failed
      · cases failed
        exact .inr ⟨argument, rfl⟩
      · exact ih failed

theorem Arguments.misuse_of_parse {arguments : List String} {error : CommandError}
    (failed : parse arguments = .error error) : error.Misuse :=
  misuse_of_parseFrom failed

/-! ## Runs over files -/

section Runs

variable {files : Files} {path : String} {options : Options} {sink : Sink}

theorem lexFile_of_missing {failure : Failure} (missing : files path = .error failure) :
    lexFile files path options sink = ⟨.error (.ofFailure path failure), sink, []⟩ := by
  have closed : files.openSource path = .error (.opening path failure) := by
    rw [Files.openSource, missing]
  rw [lexFile, closed]
  rfl

/-- **A run fails if its source cannot be opened, or if it is a directory that is to be
listed,** where the device takes everything. -/
theorem lexFile_result_eq_error_iff (unfailing : sink.Unfailing) {error : CommandError} :
    (lexFile files path options sink).result = .error error ↔
      (∃ failure, files path = .error failure ∧ error = .ofFailure path failure) ∨
        files path = .ok .directory ∧ options.listing = true ∧
          error = .reading path .directoryRead := by
  cases found : files path with
  | error failure =>
    rw [lexFile_of_missing found]
    constructor
    · rintro ⟨⟩
      exact .inl ⟨failure, rfl, rfl⟩
    · rintro (⟨_, ⟨⟩, rfl⟩ | ⟨⟨⟩, _⟩)
      rfl
  | ok entry =>
    have opened := Files.openSource_eq_ok_iff.mpr ⟨entry, found, rfl⟩
    rw [(lexFile_of_opened opened unfailing options).1]
    cases entry with
    | file content =>
      rw [Files.listed_of_file found]
      exact ⟨nofun, by rintro (⟨_, ⟨⟩, _⟩ | ⟨⟨⟩, _⟩)⟩
    | directory =>
      rw [Files.listed_of_directory found]
      constructor
      · intro failed
        split at failed <;> rename_i listing <;> cases failed
        exact .inr ⟨rfl, listing, rfl⟩
      · rintro (⟨_, ⟨⟩, _⟩ | ⟨_, listing, rfl⟩)
        rw [if_pos listing]
        rfl

/-- The error of a run is no misuse of the command. -/
theorem not_misuse_of_lexFile (unfailing : sink.Unfailing) {error : CommandError}
    (failed : (lexFile files path options sink).result = .error error) : ¬error.Misuse := by
  rw [← CommandError.isMisuse_iff, Bool.not_eq_true]
  rcases (lexFile_result_eq_error_iff unfailing).mp failed with ⟨failure, _, rfl⟩ | ⟨_, _, rfl⟩
  · exact CommandError.isMisuse_ofFailure path failure
  · rfl

/-- Bytes that are lexed to their end encode a text. -/
theorem exists_text_of_exhausted {content : List UInt8} {policy : Policy}
    (used : (lexWith (LineReader.ofStream [.bytes content]) (.new 0) policy).termination =
      .exhausted) : ∃ text : String, Utf8.encode text.toList = content := by
  rw [(lexWith_eq _ 0 policy).2.2, Ending.termination_eq_exhausted_iff] at used
  have whole := Utf8.encode_append_remainder content
  rw [remainder_of_exhausted used, List.append_nil] at whole
  exact ⟨String.ofList (Utf8.decode content).text, by rwa [String.toList_ofList]⟩

/-- Lexing the bytes of a file that holds a text is lexing the text. -/
theorem lexWith_bytes_of_encode (text : String) (policy : Policy) :
    lexWith (LineReader.ofStream [.bytes (Utf8.encode text.toList)]) (.new 0) policy =
      lex text policy :=
  lexWith_ofStream_of_encode (List.append_nil _) rfl policy

/-- **A run uses its file up just where the file holds a text, and the text is lexed to
its end.** -/
theorem lexFile_exhausted_iff (unfailing : sink.Unfailing) :
    (∃ summary, (lexFile files path options sink).result = .ok summary ∧
        summary.termination = .exhausted) ↔
      ∃ text : String, files path = .ok (.file (Utf8.encode text.toList)) ∧
        (lex text options.policy).termination = .exhausted := by
  constructor
  · rintro ⟨summary, done, used⟩
    rcases found : files path with failure | content | _
    · rw [lexFile_of_missing found] at done
      cases done
    · rw [(lexFile_of_file found unfailing options).1] at done
      cases done
      obtain ⟨text, rfl⟩ := exists_text_of_exhausted used
      have same := congrArg Output.termination (lexWith_bytes_of_encode text options.policy)
      exact ⟨text, rfl, same.symm.trans used⟩
    · -- A directory is never used up: the first read of it fails.
      have opened := Files.openSource_eq_ok_iff.mpr ⟨.directory, found, rfl⟩
      rw [(lexFile_of_opened opened unfailing options).1, Files.listed_of_directory found] at done
      have ends := (summary_directory options.policy).2
      split at done <;> cases done
      rw [ends] at used
      cases used
  · rintro ⟨text, found, used⟩
    have same := congrArg Output.termination (lexWith_bytes_of_encode text options.policy)
    exact ⟨_, (lexFile_of_file found unfailing options).1, same.trans used⟩

end Runs

/-! ## The command -/

section Command

variable (files : Files) (rest : List String)

/-- The arguments name a file that holds a text, and the text is lexed to its end. -/
def LexesToEnd : Prop :=
  ∃ arguments text, Arguments.parse rest = .ok arguments ∧
    files arguments.path = .ok (.file (Utf8.encode (String.toList text))) ∧
    (lex text arguments.options.policy).termination = .exhausted

/-- The run that the arguments ask for does its work, and the file is not lexed to its
end. -/
def LexesInPart : Prop :=
  ∃ arguments summary, Arguments.parse rest = .ok arguments ∧
    (lexFile files arguments.path arguments.options .unbounded).result = .ok summary ∧
    summary.termination ≠ .exhausted

/-- The lexing command fails with an error, when it has written some bytes. -/
inductive LexFails : CommandError → List UInt8 → Prop
  /-- The arguments make no sense, and no file is looked at. -/
  | arguments {error : CommandError} (failed : Arguments.parse rest = .error error) :
      LexFails error []
  | run {arguments : Arguments} {error : CommandError}
      (parsed : Arguments.parse rest = .ok arguments)
      (failed : (lexFile files arguments.path arguments.options .unbounded).result =
        .error error) :
      LexFails error (lexFile files arguments.path arguments.options .unbounded).sink.contents

/-- What the exit code and the two output streams of the lexing command tell. -/
structure Outcome.Exact (outcome : Outcome) : Prop where
  success : outcome.code = 0 ↔ LexesToEnd files rest
  failure : outcome.code ≠ 0 → outcome.code = 1
  output : ∀ arguments, Arguments.parse rest = .ok arguments →
    outcome.output =
      (lexFile files arguments.path arguments.options .unbounded).sink.contents
  unwritten : ∀ error, Arguments.parse rest = .error error → outcome.output = []
  quiet : outcome.code = 0 → outcome.errors = ""
  /-- A failure of which nothing is said is one of lexing. -/
  lexical : outcome.code = 1 → (outcome.errors = "" ↔ LexesInPart files rest)
  /-- What is said is the wording of an error, and how the command is used if the error is
  a misuse of it. Only its arguments can be that. -/
  wording : outcome.errors ≠ "" → ∃ error, LexFails files rest error outcome.output ∧
    (error.Misuse ↔ Arguments.parse rest = .error error) ∧
    (error.Misuse ∧ outcome.errors = "error: " ++ error.message ++ "\n" ++ lexUsageText ∨
      ¬error.Misuse ∧ outcome.errors = "error: " ++ error.message ++ "\n")

variable {files rest}

/-! ### Failures -/

/-- The text for an error is its wording, and the usage follows a misuse alone. -/
theorem errorText_cases (error : CommandError) :
    error.Misuse ∧ errorText error = "error: " ++ error.message ++ "\n" ++ lexUsageText ∨
      ¬error.Misuse ∧ errorText error = "error: " ++ error.message ++ "\n" := by
  rw [← CommandError.isMisuse_iff]
  cases misuse : error.isMisuse with
  | true =>
    refine .inl ⟨rfl, ?_⟩
    rw [errorText, misuse]
    rfl
  | false =>
    refine .inr ⟨Bool.false_ne_true, ?_⟩
    rw [errorText, misuse]
    exact String.append_empty

theorem errorText_ne_empty (error : CommandError) : errorText error ≠ "" := by
  rcases errorText_cases error with ⟨_, said⟩ | ⟨_, said⟩ <;> simp [said]

section Failures

variable {error : CommandError} {output : List UInt8} (why : LexFails files rest error output)

include why

theorem LexFails.run_eq :
    runCommandLine files ("lex" :: rest) = ⟨1, output, errorText error⟩ := by
  rw [runCommandLine, Command.ofArguments, if_pos rfl]
  cases why with
  | arguments failed =>
    rw [failed]
    rfl
  | run parsed failed =>
    rw [parsed]
    dsimp only [Command.run, Outcome.ofRun]
    rw [failed]

/-- A command that fails with an error leaves no summary behind. -/
theorem LexFails.not_summary {arguments : Arguments} {summary : Summary}
    (parsed : Arguments.parse rest = .ok arguments)
    (done : (lexFile files arguments.path arguments.options .unbounded).result = .ok summary) :
    False := by
  cases why with
  | arguments failed => cases failed.symm.trans parsed
  | run parsed' failed =>
    cases parsed'.symm.trans parsed
    cases failed.symm.trans done

theorem LexFails.not_lexesToEnd : ¬LexesToEnd files rest := by
  rintro ⟨arguments, text, parsed, found⟩
  obtain ⟨summary, done, _⟩ :=
    (@lexFile_exhausted_iff _ _ _ Sink.unbounded ⟨rfl, rfl⟩).mpr ⟨text, found⟩
  exact why.not_summary parsed done

theorem LexFails.not_lexesInPart : ¬LexesInPart files rest := by
  rintro ⟨arguments, summary, parsed, done, _⟩
  exact why.not_summary parsed done

theorem LexFails.misuse_iff : error.Misuse ↔ Arguments.parse rest = .error error := by
  cases why with
  | arguments failed => exact ⟨fun _ => failed, fun _ => Arguments.misuse_of_parse failed⟩
  | run parsed failed =>
    constructor
    · intro misuse
      exact absurd misuse (not_misuse_of_lexFile ⟨rfl, rfl⟩ failed)
    · intro failed'
      cases parsed.symm.trans failed'

theorem LexFails.exact : Outcome.Exact files rest ⟨1, output, errorText error⟩ where
  success := ⟨fun zero => absurd zero (by decide : (1 : UInt32) ≠ 0),
    fun toEnd => absurd toEnd why.not_lexesToEnd⟩
  failure := fun _ => rfl
  output := by
    intro arguments parsed
    cases why with
    | arguments failed => cases failed.symm.trans parsed
    | run parsed' failed =>
      cases parsed'.symm.trans parsed
      rfl
  unwritten := by
    intro error' failed'
    cases why with
    | arguments failed => rfl
    | run parsed failed => cases parsed.symm.trans failed'
  quiet := fun zero => absurd zero (by decide : (1 : UInt32) ≠ 0)
  lexical := fun _ => ⟨fun empty => absurd empty (errorText_ne_empty error),
    fun inPart => absurd inPart why.not_lexesInPart⟩
  wording := fun _ => ⟨error, why, why.misuse_iff, errorText_cases error⟩

end Failures

/-! ### Summaries -/

section Summaries

variable {arguments : Arguments} {summary : Summary}
  (parsed : Arguments.parse rest = .ok arguments)
  (done : (lexFile files arguments.path arguments.options .unbounded).result = .ok summary)

include parsed done

theorem runCommandLine_lex_of_summary :
    runCommandLine files ("lex" :: rest) =
      ⟨if summary.termination = .exhausted then 0 else 1,
        (lexFile files arguments.path arguments.options .unbounded).sink.contents, ""⟩ := by
  rw [runCommandLine, Command.ofArguments, if_pos rfl, parsed]
  dsimp only [Command.run, Outcome.ofRun]
  rw [done]
  simp only [Summary.isClean, beq_iff_eq]

theorem lexesToEnd_iff : LexesToEnd files rest ↔ summary.termination = .exhausted := by
  have ends := @lexFile_exhausted_iff files arguments.path arguments.options Sink.unbounded
    ⟨rfl, rfl⟩
  constructor
  · rintro ⟨arguments', text, parsed', found⟩
    cases parsed.symm.trans parsed'
    obtain ⟨summary', succeeds, used⟩ := ends.mpr ⟨text, found⟩
    cases done.symm.trans succeeds
    exact used
  · intro used
    obtain ⟨text, found⟩ := ends.mp ⟨summary, done, used⟩
    exact ⟨arguments, text, parsed, found⟩

theorem lexesInPart_iff : LexesInPart files rest ↔ summary.termination ≠ .exhausted := by
  constructor
  · rintro ⟨arguments', summary', parsed', succeeds, before⟩
    cases parsed.symm.trans parsed'
    cases done.symm.trans succeeds
    exact before
  · intro before
    exact ⟨arguments, summary, parsed, done, before⟩

theorem exact_of_summary :
    Outcome.Exact files rest ⟨if summary.termination = .exhausted then 0 else 1,
      (lexFile files arguments.path arguments.options .unbounded).sink.contents, ""⟩ where
  success := by
    rw [lexesToEnd_iff parsed done]
    simp
  failure := by simp
  output := by
    intro arguments' parsed'
    cases parsed.symm.trans parsed'
    rfl
  unwritten := by
    intro error failed
    cases parsed.symm.trans failed
  quiet := fun _ => rfl
  lexical := by
    rw [lexesInPart_iff parsed done]
    simp
  wording := fun said => absurd rfl said

end Summaries

/-- **The exit code of the lexing command is exact.** It is zero where the arguments name
a file that holds a text and the text is lexed to its end, and one otherwise. What the
run has written is put out in either case, and also if the run fails. Nothing is said
about errors where the code is zero, and where it is one because the file was lexed in
part. In any other case it is the wording of the error that the arguments or the run
ended with, and the usage follows just the errors of wrong use. -/
theorem runCommandLine_lex_exact (files : Files) (rest : List String) :
    Outcome.Exact files rest (runCommandLine files ("lex" :: rest)) := by
  cases parsed : Arguments.parse rest with
  | error error =>
    have why : LexFails files rest error [] := .arguments parsed
    rw [why.run_eq]
    exact why.exact
  | ok arguments =>
    cases done : (lexFile files arguments.path arguments.options .unbounded).result with
    | error error =>
      have why : LexFails files rest error _ := .run parsed done
      rw [why.run_eq]
      exact why.exact
    | ok summary =>
      rw [runCommandLine_lex_of_summary parsed done]
      exact exact_of_summary parsed done

/-- A file that is lexed to its end, a file that stops at a byte which is no character,
and an option that is unknown. -/
theorem runCommandLine_lex_exact_ends :
    let files := FileTree.files (.directory
      [("a.x", .file (Utf8.encode "n = 3/4/2005\n".toList)), ("b.x", .file [0x61, 0xFF])])
    let clean := runCommandLine files ["lex", "--uniform-dates", "a.x"]
    let broken := runCommandLine files ["lex", "b.x"]
    let misused := runCommandLine files ["lex", "b.x", "--strict"]
    clean.code = 0 ∧ clean.errors = "" ∧ broken.code = 1 ∧ broken.errors = "" ∧
      misused.code = 1 ∧ misused.output = [] ∧
      misused.errors = "error: unknown option '--strict'\n" ++ lexUsageText := by
  intro files clean broken misused
  have zero : clean.code = 0 := (runCommandLine_lex_exact files _).success.mpr
    ⟨⟨"a.x", ⟨⟨.split, true⟩, true⟩⟩, "n = 3/4/2005\n", by decide +kernel, by decide +kernel,
      by decide +kernel⟩
  have one : broken.code = 1 := by decide +kernel
  have quiet : broken.errors = "" := by decide +kernel
  have said : misused = ⟨1, [], errorText (.unknownOption "--strict")⟩ := by decide +kernel
  refine ⟨zero, (runCommandLine_lex_exact files _).quiet zero, one, quiet, ?_⟩
  rw [said]
  exact ⟨rfl, rfl, rfl⟩

end Command

end Lexis
