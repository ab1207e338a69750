import Lexis.Files.Basic
import Lexis.Text.Lines

/-!
# File trees

A file tree holds files and directories under their names. A path is followed
step by step from the top of the tree: a dot stays, two dots go back up, and a
name leads to the entry of that name. Only directories can be stepped out of, so
a path that ends in a slash leads to a directory or fails. Above the top lies an
empty directory, and so it does where absolute paths start.

Names are looked up one at a time, so the first step that fails decides how the
path fails.
-/

namespace Lexis

set_option autoImplicit false

/-- A file, or a directory with its entries. -/
inductive FileTree
  | file (content : List UInt8)
  | directory (entries : List (String × FileTree))

namespace FileTree

/-- A directory with no entries. -/
def empty : FileTree :=
  .directory []

/-- Puts an entry under a name, in the place of the one there before. -/
def put (entries : List (String × FileTree)) (name : String) (tree : FileTree) :
    List (String × FileTree) :=
  (name, tree) :: entries.filter (·.1 != name)

/-- Puts a tree at the end of a path, with the directories on the way. A directory
that is there already stays as it is. -/
def plant (tree : FileTree) : List String → FileTree → FileTree
  | [], here =>
      match tree, here with
      | .directory _, .directory entries => .directory entries
      | _, _ => tree
  | name :: later, here =>
      match here with
      | .file content => .file content
      | .directory entries =>
          let there := (entries.lookup name).getD empty
          .directory (put entries name (tree.plant later there))

/-- The steps of a path. -/
def steps (path : String) : List String :=
  (splitOn '/' path.toList).map String.ofList

/-- Adds a tree under a relative path. -/
def add (whole : FileTree) (path : String) (tree : FileTree) : FileTree :=
  tree.plant ((steps path).filter fun step => step != "" && step != ".") whole

/-- The longest name, in bytes. -/
def longestName : Nat := 255

/-- The longest path, in bytes. -/
def longestPath : Nat := 4095

/-- What a tree is when it is opened. -/
def entry : FileTree → Entry
  | .file content => .file content
  | .directory _ => .directory

/-- Follows the steps of a path from a place in a tree; the directories above that
place are given with the nearest first. -/
def follow (here : FileTree) (above : List FileTree) : List String → Except Failure Entry
  | [] => .ok here.entry
  | step :: later =>
      match here with
      | .file _ => .error .throughFile
      | .directory entries =>
          if step = "" ∨ step = "." then follow here above later
          else if step = ".." then
            match above with
            | [] => follow empty [] later
            | parent :: above => follow parent above later
          else if longestName < step.utf8ByteSize then .error .longName
          else
            match entries.lookup step with
            | none => .error .noSuchFile
            | some there => follow there (here :: above) later

/-- Where the paths of a tree lead. -/
def files (tree : FileTree) : Files := fun path =>
  if path.toList.contains '\x00' then .error .nulInName
  else if path.isEmpty then .error .noSuchFile
  else if longestPath < path.utf8ByteSize then .error .longName
  else if path.toList.head? = some '/' then follow empty [] (steps path)
  else follow tree [] (steps path)

end FileTree

end Lexis
