import MetesBounds.Path
import MetesBounds.Table
import MetesBounds.Text.Encoding.Utf8

/-!
# `FileTree` — files and directories, and where a path leads among them

A spot is the row of names that leads to it from the root. A path is followed name by name, from the
root or from the working directory: every spot on the way has to be a directory, and two points lead
back to the one above, so that `a/../b` leads to `b` only where `a` is a directory. An error shows
the path as it was written, not the spot that it leads to.
-/

set_option autoImplicit false

namespace MetesBounds

/-- A spot in a tree of files: the names that lead to it from the root. -/
abbrev Spot := List String

/-- What is found at a spot. -/
inductive Node where
  | file (content : List UInt8)
  | directory

/-- A tree of files, with the directory that paths are followed from. -/
structure FileTree where
  working : Spot
  nodes : Table Spot Node

/-- Why a path leads nowhere, or why nothing can be made where it leads. -/
inductive Obstacle where
  | missing
  | throughFile
  | longName
  | takenByFile

/-- An obstacle on a path, as an error. -/
def Obstacle.error (path : String) : Obstacle → Error
  | missing => .noFile path
  | throughFile => .notDirectory path
  | longName => .nameTooLong path
  | takenByFile => .fileExists path

namespace FileTree

/-- The most bytes that a name has. -/
def longestName : Nat := 255

/-- The most bytes that a path has. -/
def longestPath : Nat := 4095

/-- What is found at a spot. Everything above the working directory, or above a node, is a
directory. -/
def at? (t : FileTree) (s : Spot) : Option Node :=
  match t.nodes.get? s with
  | some n => some n
  | none =>
    if s.isPrefixOf t.working || t.nodes.entries.any fun e => s.isPrefixOf e.1 then some .directory
    else none

/-- A tree with a node at a spot. -/
def put (t : FileTree) (s : Spot) (n : Node) : FileTree := { t with nodes := t.nodes.insert s n }

/-- The spot that names lead to from another. Nothing needs to be found there, but everything on the
way has to be a directory. -/
def follow (t : FileTree) (s : Spot) : List String → Except Obstacle Spot
  | [] => .ok s
  | name :: rest =>
    match t.at? s with
    | none => .error .missing
    | some (.file _) => .error .throughFile
    | some .directory =>
      if name == ".." then t.follow s.dropLast rest
      else if longestName < (Text.Utf8.nameBytes name).length then .error .longName
      else t.follow (s ++ [Text.Utf8.fileName name]) rest

/-- The spot that a path is followed from. -/
def start (t : FileTree) (path : String) : Spot :=
  if (Path.rootOf path).isEmpty then t.working else []

/-- What no path may be, wherever it leads. -/
def checkPath (path : String) : Except Error Unit :=
  match Text.halves? (fun half => (Text.Utf8.byteOfHalf? half).isSome) path with
  | some halves => .error (.unencodable halves)
  | none =>
    if path.toList.contains '\x00' then .error .nulInPath
    else if longestPath < (Text.Utf8.nameBytes path).length then .error (.nameTooLong path)
    else .ok ()

/-- The spot that a path leads to. -/
def spotOf (t : FileTree) (path : String) : Except Error Spot := do
  checkPath path
  (t.follow (t.start path) (Path.parts path)).mapError (Obstacle.error path)

/-- The content of the file that a path leads to. -/
def read (t : FileTree) (path : String) : Except Error (List UInt8) := do
  match t.at? (← t.spotOf path) with
  | some (.file content) => .ok content
  | some .directory => .error (.isDirectory path)
  | none => .error (.noFile path)

/-- The spot where a path lets a file be written, be there one or not. -/
def spotToWrite (t : FileTree) (path : String) : Except Error Spot := do
  let s ← t.spotOf path
  match t.at? s with
  | some .directory => .error (.isDirectory path)
  | _ => .ok s

/-- The tree after a directory is made at the end of names, all but the last of which lead through
directories. One that is there already is left as it is. -/
def makeLast (t : FileTree) (s : Spot) (names : List String) : Except Obstacle FileTree := do
  let s ← t.follow s names
  match t.at? s with
  | some .directory => .ok t
  | some (.file _) => .error .takenByFile
  | none => .ok (t.put s .directory)

/-- The tree after a directory is made at the end of names, given from the last to the first, and
those above it where they are missing. -/
def makeAll (t : FileTree) (root : String) (s : Spot) : List String → Except Error FileTree
  | [] => .ok t
  | name :: above =>
    let names := (name :: above).reverse
    match t.makeLast s names with
    | .ok t => .ok t
    | .error .missing => do
      let t ← t.makeAll root s above
      (t.makeLast s names).mapError (Obstacle.error (Path.ofParts root names))
    | .error o => .error (o.error (Path.ofParts root names))

/-- The tree after the directory that a path leads to is made. -/
def makeDirectory (t : FileTree) (path : String) : Except Error FileTree := do
  checkPath path
  t.makeAll (Path.rootOf path) (t.start path) (Path.parts path).reverse

/-- A tree with nothing but a working directory. -/
def ofWorking (working : Spot) : FileTree := ⟨working, .empty⟩

end FileTree

end MetesBounds
