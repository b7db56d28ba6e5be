import MetesBounds.Command
import MetesBounds.FileTree

/-!
# `Command/InTree` — the command at work in a tree of files

What the command does to files, as a function of the tree that it starts in: it reads the sheet,
makes the audit directory, and writes the file of its trail and the exported run. All of them go
through paths as they were typed, so the spots that are written lie wherever these lead.
-/

set_option autoImplicit false

namespace MetesBounds.Command

/-- The path of the file of the trail, in the audit directory. -/
def trailPath (directory logName : String) : String := Path.inside directory logName

/-- The tree in which the audit directory is made, where one is asked for, and the spot that the
trail is written to. -/
def prepareTree (units : UnitLibrary) (t : FileTree) (a : Arguments) (logName : String) :
    Except Error (FileTree × Option Spot) :=
  match directoryOf units a with
  | none => .ok (t, none)
  | some directory => do
    let t ← t.makeDirectory directory
    let s ← t.spotToWrite (trailPath directory logName)
    return (t.put s (.file []), some s)

/-- The files of a trail, where they are written. -/
def trailFiles (s : Option Spot) (r : Report) : List (Spot × String) :=
  match s, r.trail with
  | some s, some trail => trail.files.map fun lines => (s, Trail.fileText "" lines)
  | _, _ => []

/-- The report of the command at work in a tree of files, and the files that it writes there. -/
def inTree (i : Instruments) (out : Output) (t : FileTree) (a : Arguments)
    (clock logName : String) : Report × List (Spot × String) :=
  match prepareTree i.units t a logName with
  | .error e => (report i out a clock (.error e) (t.read a.file), [])
  | .ok (t, s) =>
    let r := report i out a clock (.ok ()) (t.read a.file)
    match r.exported with
    | none => (r, trailFiles s r)
    | some (path, text) =>
      match t.spotToWrite path with
      | .error e => (r.unexported e, trailFiles s r)
      | .ok written => (r, trailFiles s r ++ [(written, text)])

end MetesBounds.Command
