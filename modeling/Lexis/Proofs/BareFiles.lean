import Lexis.Proofs.ArgumentOrder
import Lexis.Proofs.ExitCodes

/-!
# A source file as the command

A command line that is a source file alone asks for the file to be lexed with the default
options (`Command.ofArguments_sourcePath`): no name of a command and no flag has an extension,
so no source file is taken for one. The lexing command asks for the same of a path, but what
starts with a dash is no path for it, whatever its extension
(`Command.ofArguments_lex_of_dash`).

So the two forms of the command line have the same outcome just where the path does not start
with a dash (`runCommandLine_sourcePath`). Where it does, the first form looks at the file and
the second does not, and what they say about errors differs: no error of a run is worded like
an unknown option (`CommandError.misuse_of_errorText_eq`).
-/

namespace Lexis

set_option autoImplicit false

/-! ## Source files -/

theorem toLower_eq_x_iff {char : Char} : char.toLower = 'x' ↔ char = 'x' ∨ char = 'X' := by
  constructor
  · intro lower
    by_cases capital : char.val ≥ 'A'.val ∧ char.val ≤ 'Z'.val
    · have shifted : char.toLower.val = char.val + 32 := congrArg Char.val (dif_pos capital)
      have value : char.val + 32 = 'X'.val + 32 := shifted.symm.trans (congrArg Char.val lower)
      exact .inr (Char.ext ((UInt32.add_left_inj 32).mp value))
    · have same : char.toLower = char := dif_neg capital
      exact .inl (same.symm.trans lower)
  · rintro (rfl | rfl) <;> rfl

/-- **A source path is one whose extension is `x`,** as a small letter or as a capital. -/
theorem isSourcePath_iff {path : String} :
    isSourcePath path = true ↔
      (Path.extension? path.toList).map (·.map Char.toLower) = some ['x'] := by
  simp only [Option.map_eq_some_iff, List.map_eq_singleton_iff, toLower_eq_x_iff]
  rw [isSourcePath]
  split
  · simp_all
  · simp_all
  · rename_i small capital
    refine ⟨nofun, ?_⟩
    rintro ⟨_, found, char, rfl, rfl | rfl⟩
    · exact absurd found small
    · exact absurd found capital

theorem ne_of_isSourcePath {path name : String} (source : isSourcePath path = true)
    (other : isSourcePath name = false) : path ≠ name := by
  rintro rfl
  exact Bool.false_ne_true (other.symm.trans source)

/-! ## What is asked for -/

namespace Command

variable {path : String}

/-- A source file is no name of a command. -/
theorem ofArguments_sourcePath (source : isSourcePath path = true) :
    ofArguments [path] = .lex ⟨path, {}⟩ := by
  have notAmong {names : List String} (others : ∀ name ∈ names, isSourcePath name = false) :
      path ∉ names :=
    fun member => ne_of_isSourcePath source (others path member) rfl
  have notLex : path ≠ "lex" := ne_of_isSourcePath source (by decide)
  have notHelp : path ∉ ["help", "--help", "-h"] := notAmong (by decide)
  have notVersion : path ∉ ["version", "--version", "-v"] := notAmong (by decide)
  rw [ofArguments, if_neg notLex, if_neg notHelp, if_neg notVersion, if_pos source]

/-- The lexing command takes what starts with no dash for a path. -/
theorem ofArguments_lex_of_noDash (noDash : startsWithDash path = false) :
    ofArguments ["lex", path] = .lex ⟨path, {}⟩ := by
  have isPath : Arguments.isPath path = true := by
    rw [Arguments.isPath, noDash]
    rfl
  rw [ofArguments, if_pos rfl, Arguments.parse, Arguments.parseFrom_path _ _ _ isPath]
  rfl

/-- The lexing command takes a source file that starts with a dash for an option. -/
theorem ofArguments_lex_of_dash (source : isSourcePath path = true)
    (dash : startsWithDash path = true) :
    ofArguments ["lex", path] = .misused (.unknownOption path) := by
  have other (flag : Flag) : isSourcePath flag.spelling = false := by cases flag <;> decide
  have unknown : Arguments.isUnknownOption path = true :=
    Arguments.isUnknownOption_iff.mpr
      ⟨dash, fun flag => (ne_of_isSourcePath source (other flag)).symm⟩
  rw [ofArguments, if_pos rfl, Arguments.parse, Arguments.parseFrom_unknownOption _ _ _ unknown]

end Command

/-! ## What is said -/

/-- Only a misuse is worded like an unknown option. -/
theorem CommandError.misuse_of_errorText_eq {error : CommandError} {option : String}
    (same : errorText error = errorText (.unknownOption option)) : error.Misuse := by
  obtain ⟨misuse, _⟩ | ⟨_, said⟩ := errorText_cases error
  · exact misuse
  obtain ⟨_, asked⟩ | ⟨noMisuse, _⟩ := errorText_cases (.unknownOption option)
  · have letters := congrArg String.toList (said.symm.trans (same.trans asked))
    dsimp only [message, toString] at letters
    simp only [String.toList_append, List.append_assoc, List.append_cancel_left_eq] at letters
    -- The first letter of the wording tells an unknown option from what can happen to a file.
    have first := congrArg List.head? letters
    cases error with
    | missingPath => exact .inl rfl
    | unknownOption other => exact .inr ⟨other, rfl⟩
    | _ =>
      dsimp only [message, toString] at first
      simp at first
  · exact absurd (.inr ⟨option, rfl⟩) noMisuse

/-- A run over a file says nothing that is said about an unknown option. -/
theorem errors_run_lex_ne (files : Files) (arguments : Arguments) (option : String) :
    ((Command.lex arguments).run files).errors ≠ errorText (.unknownOption option) := by
  obtain ⟨path, options⟩ := arguments
  dsimp only [Command.run, Outcome.ofRun]
  split
  · exact (errorText_ne_empty _).symm
  · rename_i failed
    intro same
    have unfailing : Sink.unbounded.Unfailing := ⟨rfl, rfl⟩
    exact not_misuse_of_lexFile unfailing failed (CommandError.misuse_of_errorText_eq same)

/-! ## Outcomes -/

/-- **A source file as the command is lexed with the default options.** The lexing command
with the file as its argument has the same outcome just where the file does not start with a
dash. Where it does, the lexing command looks at no file and reports an unknown option, which
a run over the file never does. -/
theorem runCommandLine_sourcePath (files : Files) {path : String}
    (source : (Path.extension? path.toList).map (·.map Char.toLower) = some ['x']) :
    runCommandLine files [path] = (Command.lex ⟨path, {}⟩).run files ∧
    (runCommandLine files [path] = runCommandLine files ["lex", path] ↔
      startsWithDash path = false) ∧
    (startsWithDash path = true →
      runCommandLine files ["lex", path] = ⟨1, [], errorText (.unknownOption path)⟩ ∧
      (runCommandLine files [path]).errors ≠ (runCommandLine files ["lex", path]).errors) := by
  have bare : runCommandLine files [path] = (Command.lex ⟨path, {}⟩).run files := by
    rw [runCommandLine, Command.ofArguments_sourcePath (isSourcePath_iff.mpr source)]
  have refused (dash : startsWithDash path = true) :
      runCommandLine files ["lex", path] = ⟨1, [], errorText (.unknownOption path)⟩ := by
    rw [runCommandLine, Command.ofArguments_lex_of_dash (isSourcePath_iff.mpr source) dash]
    rfl
  have differs (dash : startsWithDash path = true) :
      (runCommandLine files [path]).errors ≠ (runCommandLine files ["lex", path]).errors := by
    rw [bare, refused dash]
    exact errors_run_lex_ne files _ path
  refine ⟨bare, ⟨fun same => ?_, fun noDash => ?_⟩, fun dash => ⟨refused dash, differs dash⟩⟩
  · rw [← Bool.not_eq_true]
    exact fun dash => differs dash (congrArg Outcome.errors same)
  · rw [bare, runCommandLine, Command.ofArguments_lex_of_noDash noDash]

/-- A file in a directory, with a capital in its extension and a command for its name. -/
theorem runCommandLine_sourcePath_capital :
    let files := FileTree.files (.directory
      [("src", .directory [("lex.X", .file (Utf8.encode "n = 3\n".toList))])])
    let path := "src/lex.X"
    (Path.extension? path.toList).map (·.map Char.toLower) = some ['x'] ∧
      runCommandLine files [path] = runCommandLine files ["lex", path] ∧
      (runCommandLine files [path]).code = 0 := by
  intro files path
  have source : (Path.extension? path.toList).map (·.map Char.toLower) = some ['x'] := by decide
  obtain ⟨_, same, _⟩ := runCommandLine_sourcePath files source
  exact ⟨source, same.mpr (by decide), by decide +kernel⟩

/-- An empty file whose name starts with a dash is lexed to its end in the one form, and is an
unknown option in the other. -/
theorem not_runCommandLine_sourcePath_eq :
    ¬∀ (files : Files) (path : String),
      (Path.extension? path.toList).map (·.map Char.toLower) = some ['x'] →
        runCommandLine files [path] = runCommandLine files ["lex", path] := by
  intro same
  let files : Files := fun _ => .ok (.file [])
  have differ : runCommandLine files ["-x.x"] ≠ runCommandLine files ["lex", "-x.x"] := by
    decide +kernel
  exact differ (same files "-x.x" (by decide))

end Lexis
