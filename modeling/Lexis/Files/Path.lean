import Lexis.Text.Lines

/-!
# Extensions of paths

The extension of a path is what follows the last dot of its file name. The file
name is the last part of the path; empty parts and single dots at the end do not
count as parts, and two dots are no name. A dot that a name starts with opens no
extension unless another dot follows it.
-/

namespace Lexis.Path

set_option autoImplicit false

/-- The file name at the end of a path. -/
def fileName? (path : List Char) : Option (List Char) :=
  match (splitOn '/' path).reverse.dropWhile fun part => part == [] || part == ['.'] with
  | name :: _ => if name = ['.', '.'] then none else some name
  | [] => none

/-- What follows the last dot of a name that does not start with it. -/
def extensionOfName? (name : List Char) : Option (List Char) :=
  let extension := (name.reverse.takeWhile (· != '.')).reverse
  match name.reverse.dropWhile (· != '.') with
  | _ :: _ :: _ => some extension
  | _ => none

/-- The extension of a path. -/
def extension? (path : List Char) : Option (List Char) :=
  fileName? path >>= extensionOfName?

end Lexis.Path
