import MetesBounds.Command.Arguments
import MetesBounds.Evaluation.Run
import MetesBounds.Sheet
import MetesBounds.Wkt

/-!
# `Command` — from a call sheet to a row of well-known text

The command reads a sheet, evaluates its calls and prints the points as one row. What can go wrong
on the way is told on the error output, and the exit code says how far the command came: 0 with a
row, 1 when the sheet could not be read, evaluated or exported, 2 when nothing was attempted.

The library does not open files itself: `Command.report` is given what reading the sheet and
preparing the audit directory came to, and gives back everything that is to be printed or written.
It is also given the instruments to evaluate with, and what standard output does not take: the row
may hold what cannot be encoded there, and the command is not prepared for that.
-/

set_option autoImplicit false

namespace MetesBounds.Command

/-- What the command comes to. An error in place of the exit code is one that it is not prepared
for. -/
structure Report where
  exit : Except Error Nat
  out : String
  err : String
  log : List Line
  trail : Option Trail
  /-- The path and the text of the exported audit trail. -/
  exported : Option (String × String)

/-- Standard output: the error with which it refuses a text, if it does. -/
structure Output where
  refusal? : String → Option Error

/-- An output in UTF-8, which has no bytes for half a character. -/
def Output.utf8 : Output := ⟨fun s => (Text.halves? (fun _ => false) s).map .unencodable⟩

/-- An output that takes any text. -/
def Output.any : Output := ⟨fun _ => none⟩

/-- A report of one line on the error output. -/
def Report.told (exit : Nat) (message : String) : Report :=
  ⟨.ok exit, "", message ++ "\n", [], none, none⟩

/-- The report of an error that the command is not prepared for. -/
def Report.escaped (e : Error) : Report := ⟨.error e, "", "", [], none, none⟩

/-- What a report becomes when its trail cannot be exported: nothing is told but why. -/
def Report.unexported (r : Report) (e : Error) : Report :=
  { Report.escaped e with trail := r.trail }

/-- The least level that is logged. -/
def levelOf (a : Arguments) : Level := if a.verbose then .debug else .warning

/-- The settings that the arguments ask for. -/
def settingsOf (units : UnitLibrary) (a : Arguments) : Except Error Settings :=
  match a.distanceUnit with
  | .text unit =>
    Settings.make units (.number Settings.usual.sphereRadius) (.text unit) Settings.usual.marker
      Settings.usual.defaultTurn (.ofInt (levelOf a).number)
  | .noValue => .error (.notAUnit "list")

/-- The name of the run, and of the geometry where none is given. -/
def runName (a : Arguments) : String := Path.stem a.file

/-- The name of the geometry. -/
def geometryName (a : Arguments) : String :=
  match a.name with
  | some (.text name) => if name.isEmpty then runName a else name
  | _ => runName a

/-- Points as the geometry that is asked for. -/
def geometryOf (a : Arguments) (points : List Point) : Except Error String :=
  if a.polygon then Wkt.polygon points else .ok (Wkt.lineString points)

/-- What is told of an error on the error output, if it is of a kind that the command is prepared
for, after the given words. -/
def tell (prepared : Family → Bool) (words : String) (e : Error) : Report :=
  if prepared e.family then .told 1 (words ++ ": " ++ e.message) else .escaped e

/-- Errors in reading the sheet that the command is prepared for. -/
def isReadingError (f : Family) : Bool := f.ofFiles || f.ofTraverse

/-- Errors in evaluating that the command is prepared for. -/
def isEvaluationError (f : Family) : Bool := f.ofTraverse || f.ofValue || f.ofType

/-- The row for points that have been found from a number of calls. -/
def exportPoints (out : Output) (a : Arguments) (points : List Point) (calls : Nat) : Report :=
  let counted : Line :=
    ⟨.command, .debug,
      toString points.length ++ " points from " ++ toString calls ++ " records"⟩
  match geometryOf a points with
  | .error e => { tell Family.ofValue "Cannot export traverse" e with log := [counted] }
  | .ok geometry =>
    let row := Wkt.row geometry (geometryName a) a.description.shown
    match out.refusal? row with
    | some e => { Report.escaped e with log := [counted] }
    | none => ⟨.ok 0, row ++ "\n", "", [counted], none, none⟩

/-- What follows an evaluation. -/
def conclude (out : Output) (a : Arguments) (calls : Nat) (o : Outcome Result) : Report :=
  match o.result with
  | .error e => tell isEvaluationError "Traverse evaluation failed" e
  | .ok result => exportPoints out a result.points calls

/-- A trail that is to be exported to a directory. -/
structure Audit where
  directory : String
  trail : Trail

/-- The evaluation of calls, with or without an audit trail. -/
def evaluateCalls (i : Instruments) (out : Output) (a : Arguments) (settings : Settings)
    (audit : Option Audit) (calls : List Call) : Report :=
  let e := Evaluator.standard i settings
  let items := calls.map Item.call
  match audit with
  | some audit =>
    let (o, trail) := e.evaluateAudited e.start audit.trail (runName a) items
    let path := Path.inside audit.directory (runName a ++ "_audit.json")
    match trail.export? (runName a) path with
    | .error err => { Report.escaped err with log := o.log, trail := some trail }
    | .ok (text, log) =>
      let r := conclude out a calls.length o
      { r with log := o.log ++ log ++ r.log, trail := some trail, exported := some (path, text) }
  | none =>
    let o := e.evaluate e.start items
    let r := conclude out a calls.length o
    { r with log := o.log ++ r.log }

/-- Everything after the settings have been found acceptable. -/
def processSheet (i : Instruments) (out : Output) (a : Arguments) (settings : Settings)
    (audit : Option Audit) (content : Except Error (List UInt8)) : Report :=
  let reading := Sheet.load .usual a.file content
  match reading.result with
  | .error e =>
    { tell isReadingError "Unable to retrieve records" e with
      log := reading.log
      trail := audit.map Audit.trail }
  | .ok calls =>
    let r := evaluateCalls i out a settings audit calls
    { r with log := reading.log ++ r.log }

/-- The directory that an audit trail is asked for in. It is prepared only where the settings are
acceptable. -/
def directoryOf (units : UnitLibrary) (a : Arguments) : Option String :=
  match settingsOf units a, a.auditDir with
  | .ok _, some (.text directory) => some directory
  | _, _ => none

/-- The report of the command, given what preparing the audit directory and reading the sheet came
to, and the time. -/
def report (i : Instruments) (out : Output) (a : Arguments) (clock : String)
    (prepared : Except Error Unit) (content : Except Error (List UInt8)) : Report :=
  match settingsOf i.units a with
  | .error e =>
    if e.family.ofValue then .told 2 ("Invalid configuration: " ++ e.message) else .escaped e
  | .ok settings =>
    match a.auditDir with
    | none => processSheet i out a settings none content
    | some .noValue => .escaped (.noSuchPart "list" "mkdir")
    | some (.text directory) =>
      match prepared with
      | .error e => .escaped e
      | .ok _ =>
        processSheet i out a settings (some ⟨directory, (Trail.empty clock).openFile⟩) content

/-- The lines that the arguments ask to be logged. -/
def reported (a : Arguments) (r : Report) : List Line := Line.from (levelOf a).number r.log

end MetesBounds.Command
