/-!
# Parts and lines of a text

A separator cuts a text into parts, one more than there are separators
(`splitOn`). Lines are the parts that line feeds end, and a last part with no
line feed after it if it is not empty. A carriage return before a line feed
belongs to the line's end and not to the line.
-/

namespace Lexis

set_option autoImplicit false

/-- The parts of a text after one more character before it: a separator closes
an empty part, any other character joins the first part. -/
def addBefore (separator char : Char) (parts : List (List Char)) : List (List Char) :=
  if char = separator then [] :: parts
  else
    match parts with
    | part :: later => (char :: part) :: later
    | [] => [[char]]

/-- The parts of a text between the separators. -/
def splitOn (separator : Char) (text : List Char) : List (List Char) :=
  text.foldr (addBefore separator) [[]]

/-- A line without a carriage return at its end. -/
def dropReturn (line : List Char) : List Char :=
  if line.getLast? = some '\r' then line.dropLast else line

/-- The lines of a text, without what ends them. -/
def lines (text : List Char) : List (List Char) :=
  let parts := splitOn '\n' text
  parts.dropLast.map dropReturn ++ (parts.getLast?.toList.filter (!·.isEmpty))

end Lexis
