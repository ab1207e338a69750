import Lexis.Command.Arguments
import Lexis.Command.LexFile
import Lexis.Files.Path

/-!
# The command line

The first argument names a command, or is a source file, which is then lexed
with the default options. Running a command yields what it writes to the two
output streams and its exit code: zero if the command did its work and, where it
lexed a file, the file was lexed to its end. An addition that overflows leaves no
such outcome (`runCommandLineChecked`).
-/

namespace Lexis

set_option autoImplicit false

/-- What the command line asks for. -/
inductive Command
  | usage
  | version
  | lex (arguments : Arguments)
  /-- The arguments of the lexing command make no sense. -/
  | misused (error : CommandError)
  | unknown (name : String)
  deriving DecidableEq

/-- Whether a path has the extension of source files, in either case. -/
def isSourcePath (path : String) : Bool :=
  match Path.extension? path.toList with
  | some ['x'] | some ['X'] => true
  | _ => false

/-- Reads the command line, without the name of the program. -/
def Command.ofArguments : List String → Command
  | [] => .usage
  | first :: later =>
      if first = "lex" then
        match Arguments.parse later with
        | .ok arguments => .lex arguments
        | .error error => .misused error
      else if first ∈ ["help", "--help", "-h"] then .usage
      else if first ∈ ["version", "--version", "-v"] then .version
      else if isSourcePath first then .lex ⟨first, {}⟩
      else .unknown first

/-! ## Fixed texts -/

/-- Lines, each with its line feed. -/
def linesText (lines : List String) : String :=
  String.join (lines.map (· ++ "\n"))

/-- How the program is used. -/
def usageText : String :=
  linesText
    ["XL front end",
      "",
      "Usage: xl <command> [options]",
      "",
      "Commands:",
      "  lex <file.x>         Tokenize and display tokens",
      "  <file.x>             Same as `lex <file.x>`",
      "  help                 Show this help message",
      "  version              Show version information",
      "",
      "Lex options:",
      "  --reject-dangling    Treat `3.`, `10-` and `3/4` as illegal literals",
      "  --uniform-dates      Require both date separators to match",
      "  --no-listing         Do not print the numbered source listing",
      "",
      "Logging:",
      "  RUST_LOG=xl_lexer=debug xl lex prog.x"]

/-- How the lexing command is used. -/
def lexUsageText : String :=
  linesText
    ["Usage: xl lex <file.x> [options]",
      "",
      "Options:",
      "  --reject-dangling   Treat `3.`, `10-` and `3/4` as illegal literals",
      "  --uniform-dates     Require both date separators to match",
      "  --no-listing        Do not print the numbered source listing"]

/-- The name and version of the program. -/
def versionText : String :=
  linesText ["XL 0.1.0"]

/-! ## Running -/

/-- What a run of the program leaves behind. -/
structure Outcome where
  code : UInt32
  output : List UInt8
  errors : String
  deriving DecidableEq

/-- The text for an error of a command, with the usage where it was misused. -/
def errorText (error : CommandError) : String :=
  s!"error: {error.message}\n" ++ (if error.isMisuse then lexUsageText else "")

/-- What a run over a file leaves behind. -/
def Outcome.ofRun (run : FileRun) : Outcome :=
  match run.result with
  | .ok summary => ⟨if summary.isClean then 0 else 1, run.sink.contents, ""⟩
  | .error error => ⟨1, run.sink.contents, errorText error⟩

/-- Carries out a command. -/
def Command.run (files : Files) : Command → Outcome
  | usage => ⟨0, Utf8.encode usageText.toList, ""⟩
  | version => ⟨0, Utf8.encode versionText.toList, ""⟩
  | misused error => ⟨1, [], errorText error⟩
  | unknown name => ⟨1, Utf8.encode usageText.toList, s!"Unknown command: {name}\n\n"⟩
  | lex ⟨path, options⟩ => .ofRun (lexFile files path options .unbounded)

/-- Carries out a command, with checks. -/
def Command.runChecked (files : Files) : Command → Except Overflow Outcome
  | lex ⟨path, options⟩ => (lexFileChecked files path options .unbounded).map .ofRun
  | other => .ok (other.run files)

/-- Runs the program on a command line. -/
def runCommandLine (files : Files) (arguments : List String) : Outcome :=
  (Command.ofArguments arguments).run files

/-- Runs the program on a command line, with checks. -/
def runCommandLineChecked (files : Files) (arguments : List String) : Except Overflow Outcome :=
  (Command.ofArguments arguments).runChecked files

end Lexis
