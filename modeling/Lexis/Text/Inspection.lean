/-!
# Inspection texts

An inspection text shows a value with its structure: the name of a record and
its fields between braces, the items of a list between brackets, an optional
value under the name of its case.
-/

namespace Lexis.Inspection

set_option autoImplicit false

/-- Texts with a comma and a space between them. -/
def separated (items : List String) : String :=
  ", ".intercalate items

/-- A record with named fields. -/
def record (name : String) (fields : List (String × String)) : String :=
  name ++ " \x7b " ++ separated (fields.map fun (field, value) => field ++ ": " ++ value) ++ " \x7d"

/-- A record of which only some fields are shown. -/
def openRecord (name : String) (fields : List (String × String)) : String :=
  name ++ " \x7b " ++
    separated ((fields.map fun (field, value) => field ++ ": " ++ value) ++ [".."]) ++ " \x7d"

/-- A name applied to values. -/
def applied (name : String) (values : List String) : String :=
  name ++ "(" ++ separated values ++ ")"

/-- The items of a list. -/
def list (items : List String) : String :=
  "[" ++ separated items ++ "]"

/-- A value that may be missing. -/
def optional : Option String → String
  | none => "None"
  | some value => applied "Some" [value]

/-- A truth value. -/
def truth : Bool → String
  | true => "true"
  | false => "false"

end Lexis.Inspection
