import Lexis.Command.Error
import Lexis.Options

/-!
# Arguments of the lexing command

The arguments are flags and paths in any order. Each flag sets one option, and
setting it twice is the same as once. The first path counts. An argument that
starts with a dash and is no flag is an error, and so is the lack of a path,
but an unknown flag anywhere is reported first.
-/

namespace Lexis

set_option autoImplicit false

/-- The flags of the lexing command. -/
inductive Flag
  | rejectDangling
  | uniformDates
  | noListing
  deriving DecidableEq

namespace Flag

/-- Every flag. -/
def all : List Flag :=
  [rejectDangling, uniformDates, noListing]

/-- How a flag is written. -/
def spelling : Flag → String
  | rejectDangling => "--reject-dangling"
  | uniformDates => "--uniform-dates"
  | noListing => "--no-listing"

/-- The flag that an argument spells. -/
def ofArgument? (argument : String) : Option Flag :=
  all.find? (·.spelling == argument)

/-- Sets the option of a flag. -/
def apply (options : Options) : Flag → Options
  | rejectDangling => { options with policy := { options.policy with dangling := .reject } }
  | uniformDates => { options with policy := { options.policy with uniformDates := true } }
  | noListing => { options with listing := false }

end Flag

/-- What a file is to be lexed, and how. -/
structure Arguments where
  path : String
  options : Options
  deriving DecidableEq

/-- Whether an argument is meant as a flag. -/
def startsWithDash (argument : String) : Bool :=
  argument.toList.head? == some '-'

/-- Reads arguments on, with the options and the path found so far. -/
def Arguments.parseFrom (options : Options) (path : Option String) :
    List String → Except CommandError Arguments
  | [] =>
      match path with
      | some path => .ok ⟨path, options⟩
      | none => .error .missingPath
  | argument :: later =>
      match Flag.ofArgument? argument with
      | some flag => parseFrom (flag.apply options) path later
      | none =>
          if startsWithDash argument then .error (.unknownOption argument)
          else parseFrom options (path <|> some argument) later

/-- Reads the arguments of the lexing command. -/
def Arguments.parse (arguments : List String) : Except CommandError Arguments :=
  parseFrom {} none arguments

end Lexis
