import MetesBounds.Text.Pieces

/-!
# `Path` — paths as they are written

A path is shown without empty parts and parts that stay where they are, so that messages do not
depend on how it was typed. Its stem, the last part without its extension, names what is made of
the file.
-/

set_option autoImplicit false

namespace MetesBounds.Path

/-- The slashes that a path from the root begins with: two where it begins with exactly two. -/
def rootOf (path : String) : String :=
  if Text.beginsWith "//" path && !Text.beginsWith "///" path then "//"
  else if Text.beginsWith "/" path then "/"
  else ""

/-- The parts of a path that lead somewhere. -/
def parts (path : String) : List String :=
  (Text.pieces "/" path).filter fun part => !part.isEmpty && part != "."

/-- The path of parts, behind the slashes that it begins with. -/
def ofParts (root : String) (parts : List String) : String :=
  let s := root ++ "/".intercalate parts
  if s.isEmpty then "." else s

/-- A path as it is shown. -/
def normal (path : String) : String := ofParts (rootOf path) (parts path)

/-- A name in a directory, as a path. -/
def inside (directory name : String) : String := normal (directory ++ "/" ++ name)

/-- The last part of a path. -/
def name (path : String) : String := (parts path).getLastD ""

/-- What stands before the last point of a name, if anything stands before and after it. -/
def beforePoint? (cs : List Char) : Option (List Char) :=
  let extension := cs.reverse.takeWhile (· != '.')
  match cs.reverse.drop extension.length with
  | _ :: front => if extension.isEmpty || front.isEmpty then none else some front.reverse
  | [] => none

/-- The last part of a path without its extension. -/
def stem (path : String) : String :=
  let n := name path
  match beforePoint? n.toList with
  | some front => String.ofList front
  | none => n

end MetesBounds.Path
