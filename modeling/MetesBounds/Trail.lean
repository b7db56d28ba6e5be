import MetesBounds.Fingerprint
import MetesBounds.Log
import MetesBounds.Table

/-!
# `Trail` — what happened in an evaluation, step by step

A trail holds runs. While a run is current, every step is written to it; when the run ends, with
or without an error, no run is current any more, also where another one was when it began. A run
entered under the name of an earlier one takes its place, but whoever is inside the earlier run
still ends that one. Runs are therefore kept in the order of entering, and a table says which of
them a name stands for.

What is written to the log, and to the open file if there is one, is part of what each operation
gives back.
-/

set_option autoImplicit false

namespace MetesBounds

/-- One evaluated call. -/
structure AuditStep where
  time : String
  index : Int
  label : String
  kind : String
  result : String
  producedPoint : Bool

/-- One evaluation. -/
structure AuditRun where
  id : String
  configHash : String
  startTime : String
  endTime : Option String
  recordCount : Nat
  pointCount : Nat
  steps : List AuditStep
  error : Option String

/-- A run that has just been entered. -/
def AuditRun.entered (id configHash time : String) : AuditRun :=
  ⟨id, configHash, time, none, 0, 0, [], none⟩

/-- A run with one more step. -/
def AuditRun.add (r : AuditRun) (s : AuditStep) : AuditRun :=
  { r with
    steps := r.steps ++ [s]
    recordCount := r.recordCount + 1
    pointCount := if s.producedPoint then r.pointCount + 1 else r.pointCount }

/-- A trail. `clock` is the time that steps and runs are marked with. -/
structure Trail where
  clock : String
  runs : List AuditRun
  named : Table String Nat
  current : Option String
  /-- The files written so far. -/
  closed : List (List (Level × String))
  /-- The open file. -/
  writing : Option (List (Level × String))

namespace Trail

/-- The trail of nothing. -/
def empty (clock : String) : Trail := ⟨clock, [], .empty, none, [], none⟩

/-- The run that a name stands for. -/
def run? (t : Trail) (id : String) : Option AuditRun :=
  match t.named.get? id with
  | some n => t.runs[n]?
  | none => none

/-- The current run. -/
def currentRun? (t : Trail) : Option AuditRun :=
  match t.current with
  | some id => t.run? id
  | none => none

/-- A trail with one run changed. -/
def modifyRun (t : Trail) (n : Nat) (f : AuditRun → AuditRun) : Trail :=
  { t with runs := t.runs.modify n f }

/-- A line of the log. -/
def line (level : Level) (message : String) : Line := ⟨.audit, level, message⟩

/-- Writes to the open file, if there is one. A line with half a character in it is left out, as it
cannot be written in UTF-8. -/
def write (t : Trail) (level : Level) (message : String) : Trail :=
  if (Text.halves? (fun _ => false) message).isSome then t
  else { t with writing := t.writing.map (· ++ [(level, message)]) }

/-- The fingerprint of a configuration; of one that says nothing it is empty. -/
def configHashOf (config : Value) : Except Error String :=
  if config.isVoid then .ok "" else fingerprint config

/-- Enters a run with the fingerprint of its configuration, which is taken before the trail is
touched. The run is known from then on by its place. -/
def enter (t : Trail) (id configHash : String) : Trail × Nat × List Line :=
  let r := AuditRun.entered id configHash t.clock
  let n := t.runs.length
  ({ t with runs := t.runs ++ [r], named := t.named.insert id n, current := some id }, n,
    [line .info ("Starting run " ++ id ++ " with config hash " ++ r.configHash)])

/-- Writes a step to the current run. -/
def record (t : Trail) (index : Int) (label kind result : String) (producedPoint : Bool) :
    Trail × List Line :=
  let step : AuditStep := ⟨t.clock, index, label, kind, result, producedPoint⟩
  let t' :=
    match t.current with
    | some id =>
      match t.named.get? id with
      | some n => t.modifyRun n (·.add step)
      | none => t
    | none => t
  let message := "STEP | " ++ toString index ++ " | " ++ label ++ " | " ++ result
  (t'.write .debug message, [line .debug message])

/-- What the end of a run reports. -/
def completed (r : AuditRun) : Line :=
  line .info ("Completed run " ++ r.id ++ ". Records: " ++ toString r.recordCount ++ ", Points: " ++
    toString r.pointCount)

/-- Ends a run. -/
def exit (t : Trail) (n : Nat) : Trail × List Line :=
  let t := { t.modifyRun n fun r => { r with endTime := some t.clock } with current := none }
  (t, (t.runs[n]?).toList.map completed)

/-- Ends a run with an error. -/
def fail (t : Trail) (n : Nat) (error : String) : Trail × List Line :=
  let t := t.modifyRun n fun r => { r with error := some error }
  let id := match t.runs[n]? with
    | some r => r.id
    | none => ""
  let message := "RUN FAILED | " ++ id ++ " | " ++ error
  let (t, log) := (t.write .error message).exit n
  (t, line .error message :: log)

/-! ## Files -/

/-- Closes the open file, if there is one. -/
def close (t : Trail) : Trail :=
  { t with closed := t.closed ++ t.writing.toList, writing := none }

/-- Opens a new file. -/
def openFile (t : Trail) : Trail := { t.close with writing := some [] }

/-- The text of a file, every line marked with the time. -/
def fileText (stamp : String) (lines : List (Level × String)) : String :=
  String.join (lines.map fun l => stamp ++ l.1.name ++ " | " ++ l.2 ++ "\n")

/-- All files, in order. -/
def files (t : Trail) : List (List (Level × String)) := t.closed ++ t.writing.toList

end Trail

end MetesBounds
