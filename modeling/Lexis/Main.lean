import Lexis.Command.Line

/-!
# The program

The program reads the one file that its command line names, runs the command on
it, and writes what the run leaves behind to the output streams. Where an
addition overflows, it says so and has the exit code of a program that was
stopped.
-/

namespace Lexis

set_option autoImplicit false

/-- The number of a system error, which may be given with its sign turned. -/
def systemErrorNumber (code : UInt32) : UInt32 :=
  min code (0 - code)

/-- What a system error comes to. -/
def failureOfSystem : IO.Error → Failure
  | .noFileOrDirectory .. => .noSuchFile
  | .permissionDenied .. => .refused
  | .inappropriateType _ code details =>
      if systemErrorNumber code = 20 then .throughFile else ⟨.other, details⟩
  | .invalidArgument _ code details =>
      if systemErrorNumber code = 36 then .longName else ⟨.invalidInput, details⟩
  | error => ⟨.other, toString error⟩

/-- What a path of the file system leads to. -/
def entryAt (path : String) : IO (Except Failure Entry) := do
  if path.toList.contains '\x00' then
    return .error .nulInName
  match ← (IO.FS.readBinFile path).toBaseIO with
  | .ok content => return .ok (.file content.toList)
  | .error (.inappropriateType file code details) =>
      if systemErrorNumber code = 21 then
        return .ok .directory
      else
        return .error (failureOfSystem (.inappropriateType file code details))
  | .error error => return .error (failureOfSystem error)

/-- Where the path that a command names leads; no other path is asked for. -/
def filesOf : Command → IO Files
  | .lex ⟨path, _⟩ => do
      let entry ← entryAt path
      return fun _ => entry
  | _ => return fun _ => .error .noSuchFile

end Lexis

/-- Runs the program and returns its exit code. -/
def main (arguments : List String) : IO UInt32 := do
  let files ← Lexis.filesOf (.ofArguments arguments)
  match Lexis.runCommandLineChecked files arguments with
  | .ok outcome =>
      let output ← IO.getStdout
      output.write ⟨outcome.output.toArray⟩
      output.flush
      (← IO.getStderr).putStr outcome.errors
      return outcome.code
  | .error _ =>
      (← IO.getStderr).putStr "attempt to add with overflow\n"
      return 101
