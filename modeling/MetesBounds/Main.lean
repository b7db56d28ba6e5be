import MetesBounds.Command.InTree
import MetesBounds.Instruments.Known
import MetesBounds.Moment

/-!
# `Main` — the command at work

Everything that touches files, clock and streams, and the libraries that the command is run with.
What is to be read, printed and written is decided in `Command`.
-/

set_option autoImplicit false

namespace MetesBounds.Main

/-- The libraries of units and of great circles. -/
def instruments : Instruments := .known

/-- The moment of the call, read off a file made for the purpose. -/
def now : IO Moment := do
  let (_, path) ← IO.FS.createTempFile
  let time := (← path.metadata).modified
  IO.FS.removeFile path
  return ⟨time.sec.toNat, time.nsec.toNat / 1000⟩

/-- Whether a path leads to a directory, `none` where it leads nowhere. -/
def isDirectory? (path : String) : IO (Option Bool) := do
  try
    let place ← IO.FS.realPath path
    return some (← place.isDir)
  catch _ => return none

/-- An error of the file system on a path. -/
def fileError (path : String) (e : IO.Error) : IO Error := do
  if let .error fault := FileTree.checkPath path then return fault
  if (Path.parts path).any fun name => FileTree.longestName < (Text.Utf8.nameBytes name).length then
    return .nameTooLong path
  match e with
  | .noFileOrDirectory .. => return .noFile path
  | .alreadyExists .. =>
    return if (← isDirectory? path).isNone then .notDirectory path else .fileExists path
  | _ => return if (← isDirectory? path) == some true then .isDirectory path else .notDirectory path

/-- The bytes of a file, or why they cannot be read. -/
def bytesOf (path : String) : IO (Except Error (List UInt8)) := do
  try
    return .ok (← IO.FS.readBinFile path).toList
  catch e => return .error (← fileError path e)

/-- Makes a directory and those above it. -/
def makeDirectory (path : String) : IO (Except Error Unit) := do
  if (← isDirectory? path) == some false then return .error (.fileExists path)
  try
    IO.FS.createDirAll path
    return .ok ()
  catch e => return .error (← fileError path e)

/-- What preparing the audit directory comes to; nothing is done where none is asked for, or where
the settings are not acceptable. -/
def prepare (a : Command.Arguments) : IO (Except Error Unit) := do
  match Command.directoryOf instruments.units a with
  | some directory => makeDirectory directory
  | none => return .ok ()

/-- Writes the file of the trail of a report. -/
def writeTrail (a : Command.Arguments) (moment : Moment) (r : Command.Report) : IO Unit := do
  match Command.directoryOf instruments.units a, r.trail with
  | some directory, some trail =>
    for lines in trail.files do
      IO.FS.writeFile (Command.trailPath directory ("audit_" ++ moment.inName ++ ".log"))
        (Trail.fileText (moment.inFile ++ " | ") lines)
  | _, _ => return ()

/-- Writes the exported run of a report. The report tells where that cannot be done. -/
def writeExported (r : Command.Report) : IO Command.Report := do
  match r.exported with
  | none => return r
  | some (path, text) =>
    try
      IO.FS.writeFile path text
      return r
    catch e => return r.unexported (← fileError path e)

/-- Carries out what the arguments ask for. -/
def carryOut (a : Command.Arguments) : IO UInt32 := do
  let moment ← now
  let prepared ← prepare a
  let content ← bytesOf a.file
  let r := Command.report instruments .utf8 a moment.iso prepared content
  writeTrail a moment r
  let r ← writeExported r
  let err ← IO.getStderr
  for line in Command.reported a r do
    err.putStrLn (moment.inLine ++ " | " ++ line.source.name ++ " | " ++ line.level.name ++ " | " ++
      line.message)
  err.putStr r.err
  IO.print r.out
  match r.exit with
  | .ok code => return code.toUInt32
  | .error e =>
    err.putStrLn (e.family.name ++ ": " ++ e.message)
    return 1

end MetesBounds.Main

open MetesBounds in
/-- The command. -/
def main (words : List String) : IO UInt32 := do
  match Command.Arguments.parse words with
  | .ok a => Main.carryOut a
  | .error .help =>
    IO.println Command.usageText
    return 0
  | .error (.fault message) =>
    let err ← IO.getStderr
    err.putStrLn Command.usageText
    err.putStrLn (Command.faultLine message)
    return 2
