import Lexis.Ending
import Lexis.Options
import Lexis.Token

/-!
# The log of a session

While it runs, a session tells what it does: each token it hands out, the
diagnostic that stops it, and its end. An event has a level of importance, a
message, and named fields.
-/

namespace Lexis

set_option autoImplicit false

/-- How important an event is. -/
inductive Level
  | trace
  | debug
  | warn
  | error
  deriving DecidableEq

/-- What a level is called in a log. -/
def Level.name : Level → String
  | trace => "TRACE"
  | debug => "DEBUG"
  | warn => "WARN"
  | error => "ERROR"

/-- The value of a field. -/
inductive FieldValue
  | text (value : String)
  | number (value : UInt32)
  deriving DecidableEq

/-- What is told about a session. -/
inductive Event
  /-- A token was handed out. -/
  | token (token : Token)
  /-- The session stopped early. -/
  | stopped (diagnostic : Diagnostic)
  /-- The session is over. -/
  | terminated (reason : Termination)
  /-- A file was opened to be lexed. -/
  | opened (path : String) (options : Options)
  deriving DecidableEq

namespace Event

/-- How important an event is. A fault of the source is no fault of the
program. -/
def level : Event → Level
  | token _ => .trace
  | stopped ⟨.sourceFault, _, _⟩ => .warn
  | stopped _ => .error
  | terminated _ => .debug
  | opened _ _ => .debug

/-- What an event says. -/
def message : Event → String
  | token _ => "token"
  | stopped ⟨.sourceFault, _, _⟩ => "source fault ended lexing"
  | stopped _ => "lexical error"
  | terminated _ => "lexing session terminated"
  | opened _ _ => "lexing"

/-- The details of an event. -/
def fields : Event → List (String × FieldValue)
  | token issued =>
      [("kind", .text issued.kind.name), ("text", .text issued.text), ("line", .number issued.line),
        ("left", .number issued.left), ("right", .number issued.right)]
  | stopped ⟨.sourceFault, text, ⟨line, column⟩⟩ =>
      [("fault", .text text), ("line", .number line), ("column", .number column)]
  | stopped ⟨kind, text, ⟨line, column⟩⟩ =>
      [("kind", .text kind.message), ("text", .text text), ("line", .number line),
        ("column", .number column)]
  | terminated reason => [("reason", .text reason.name)]
  | opened path options => [("path", .text path), ("options", .text options.inspect)]

end Event

/-- What is told when a session ends. -/
def Ending.events (ending : Ending) : List Event :=
  ending.diagnostics.map .stopped ++ [.terminated ending.termination]

end Lexis
