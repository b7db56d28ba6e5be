import MetesBounds.Proofs.Command.Report
import MetesBounds.Proofs.Evaluation.Transparency

/-!
# `Command/Composition` — the command is its parts, one after the other

What the command prints is what reading the sheet, evaluating its calls from the beginning and
writing the points down come to, in this order and with nothing in between. `Command.rowOf` says so
of the text of a sheet, and it knows nothing of reports, exit codes or logs. It does not know either
from which level on the evaluation is heard. The command does, and hands the level on; but whoever
listens changes nothing, so what is printed is the same. Only standard output comes behind the
parts, and has the last word.

Main statement: `Command.printed_rowOf`.
-/

set_option autoImplicit false

namespace MetesBounds.Command

/-! ## The parts -/

/-- What evaluates calls in a unit, with everything else as usual. -/
def evaluatorIn (i : Instruments) (unit : String) : Evaluator :=
  .standard i { Settings.usual with distanceUnit := .text unit }

/-- The row of the text of a sheet: its calls are read and evaluated from the beginning, and the
points that are found are written down, under a name and with a description. -/
def rowOf (i : Instruments) (unit : String) (polygon : Bool) (name description text : String) :
    Except Error String := do
  let e := evaluatorIn i unit
  let calls ← (Sheet.parse .usual text).result
  let result ← (e.evaluate e.start (calls.map .call)).result
  let geometry ←
    (if polygon then Wkt.polygon result.points else .ok (Wkt.lineString result.points) :
      Except Error String)
  return Wkt.row geometry name description

/-- The name that a geometry goes by: the one that is given, if it is not empty, and otherwise that
of the file without its extension. -/
inductive GoesBy (a : Arguments) : String → Prop
  | given {name : String} (h : a.name = some (.text name)) (hne : name ≠ "") : GoesBy a name
  | stem (h : ∀ name, a.name = some (.text name) → name = "") : GoesBy a (Path.stem a.file)

theorem goesBy_geometryName (a : Arguments) : GoesBy a (geometryName a) := by
  unfold geometryName
  split
  · next name hname =>
    split
    · next hempty =>
      refine .stem fun name' hname' => ?_
      rw [hname] at hname'
      cases hname'
      exact String.isEmpty_iff.mp hempty
    · next hne => exact .given hname fun h => hne (String.isEmpty_iff.mpr h)
  · next hno => exact .stem fun name hname => (hno name hname).elim

/-! ## What is printed -/

/-- What is seen of a report: the exit code, or the error that escapes, and both outputs. -/
def Report.printed (r : Report) : Except Error Nat × String × String := (r.exit, r.out, r.err)

/-- A report comes to a row, which is all that is printed unless the output refuses it, or to an
error, and then there is nothing on the output. -/
def Report.ComesTo (r : Report) (out : Output) : Except Error String → Prop
  | .ok row =>
    match out.refusal? row with
    | none => r.exit = .ok 0 ∧ r.out = row ++ "\n" ∧ r.err = ""
    | some err => r.exit = .error err ∧ r.out = ""
  | .error _ => r.exit ≠ .ok 0 ∧ r.out = ""

theorem comesTo_tell (prepared : Family → Bool) (words : String) (out : Output) (err : Error) :
    (tell prepared words err).ComesTo out (.error err) := by
  unfold tell
  split
  · exact ⟨by rintro ⟨⟩, rfl⟩
  · exact ⟨by rintro ⟨⟩, rfl⟩

theorem comesTo_exportPoints (out : Output) (a : Arguments) (points : List Point) (calls : Nat) :
    (exportPoints out a points calls).ComesTo out (do
      let geometry ← geometryOf a points
      return Wkt.row geometry (geometryName a) a.description.shown) := by
  unfold exportPoints
  cases hgeometry : geometryOf a points with
  | error err => exact comesTo_tell _ _ out err
  | ok geometry =>
    dsimp only [Bind.bind, Except.bind, Pure.pure, Except.pure, Report.ComesTo]
    cases out.refusal? (Wkt.row geometry (geometryName a) a.description.shown) with
    | none => exact ⟨rfl, rfl, rfl⟩
    | some err => exact ⟨rfl, rfl⟩

theorem comesTo_conclude (out : Output) (a : Arguments) (calls : Nat) (o : Outcome Result) :
    (conclude out a calls o).ComesTo out (do
      let result ← o.result
      let geometry ← geometryOf a result.points
      return Wkt.row geometry (geometryName a) a.description.shown) := by
  unfold conclude
  cases o.result with
  | error err => exact comesTo_tell _ _ out err
  | ok result => exact comesTo_exportPoints out a result.points calls

/-- Which level is heard from, and what has been logged, is not seen of a conclusion. -/
theorem printed_conclude (out : Output) (a : Arguments) (verbose : Bool) (calls : Nat)
    {o o' : Outcome Result} (h : o'.result = o.result) :
    (conclude out { a with verbose } calls o').printed = (conclude out a calls o).printed := by
  unfold conclude
  rw [h]
  cases o.result with
  | error err => rfl
  | ok result =>
    have hgeometry : geometryOf { a with verbose } result.points = geometryOf a result.points := rfl
    have hname : geometryName { a with verbose } = geometryName a := rfl
    simp only [exportPoints, hgeometry, hname]

/-! ## The level does not matter -/

variable {i : Instruments} {a : Arguments} {unit : String} {one : Float} {bytes : List UInt8}

/-- The level that the command is to be heard from does not change what its evaluation comes to. -/
theorem result_evaluation (i : Instruments) (a : Arguments) (unit : String) (calls : List Call) :
    (evaluation i a unit calls).result =
      ((evaluatorIn i unit).evaluate (evaluatorIn i unit).start (calls.map .call)).result := by
  have hl : (evaluatorIn i unit).Logs := ⟨_, rfl⟩
  exact (Evaluator.evaluate_heardFrom hl (.whole (levelOf a).number) _ _).result

theorem printed_processSheet (i : Instruments) (out : Output) (a : Arguments) (verbose : Bool)
    (unit : String) (bytes : List UInt8) :
    (processSheet i out { a with verbose } (evaluatorFor i { a with verbose } unit).settings none
        (.ok bytes)).printed =
      (processSheet i out a (evaluatorFor i a unit).settings none (.ok bytes)).printed := by
  cases hload : (Sheet.load .usual a.file (.ok bytes)).result with
  | error err => simp only [processSheet, hload]
  | ok calls =>
    obtain ⟨log, hs⟩ := processSheet_of_calls i out unit hload
    obtain ⟨log', hs'⟩ := processSheet_of_calls (a := { a with verbose }) i out unit hload
    rw [hs, hs']
    refine printed_conclude out a verbose calls.length ?_
    rw [result_evaluation, result_evaluation]

/-! ## The command and its parts -/

/-- The calls of a file are those of its text. -/
theorem load_of_text {text : String} (ht : Text.decodeAs "utf-8" bytes = .ok text) :
    (Sheet.load .usual a.file (.ok bytes)).result = (Sheet.parse .usual text).result := by
  rw [Text.decodeAs_utf8] at ht
  rw [Sheet.load_usual]
  cases hread : Text.Utf8.read bytes with
  | error err => rw [hread] at ht; cases ht
  | ok cs => rw [hread] at ht; cases ht; rfl

theorem comesTo_processSheet (i : Instruments) (out : Output) {text : String}
    (ht : Text.decodeAs "utf-8" bytes = .ok text) :
    (processSheet i out a (evaluatorFor i a unit).settings none (.ok bytes)).ComesTo out
      (rowOf i unit a.polygon (geometryName a) a.description.shown text) := by
  have hload := load_of_text (a := a) ht
  unfold rowOf
  cases hparse : (Sheet.parse .usual text).result with
  | error err =>
    rw [hparse] at hload
    simp only [processSheet, hload]
    exact comesTo_tell _ _ out err
  | ok calls =>
    rw [hparse] at hload
    obtain ⟨log, hs⟩ := processSheet_of_calls i out unit hload
    rw [hs]
    have h := comesTo_conclude out a calls.length (evaluation i a unit calls)
    rw [result_evaluation] at h
    exact h

/-- What is seen of a report that comes to what its stages come to. -/
theorem printed_of_comesTo {r : Report} {out : Output} {stages : Except Error String}
    (h : r.ComesTo out stages) :
    (r.exit = .ok 0 ↔ ∃ row, stages = .ok row ∧ out.refusal? row = none) ∧
      (∀ row, stages = .ok row → out.refusal? row = none → r.out = row ++ "\n" ∧ r.err = "") ∧
      (∀ row err, stages = .ok row → out.refusal? row = some err → r.exit = .error err) ∧
      ∀ code, r.exit = .ok code → code ≠ 0 → r.out = "" ∧ ∃ err, stages = .error err := by
  cases stages with
  | error err =>
    obtain ⟨hexit, hout⟩ := h
    refine ⟨⟨fun h => (hexit h).elim, ?_⟩, ?_, ?_, fun _ _ _ => ⟨hout, err, rfl⟩⟩
    · rintro ⟨_, ⟨⟩, -⟩
    · rintro _ ⟨⟩
    · rintro _ _ ⟨⟩
  | ok row =>
    rw [Report.ComesTo] at h
    cases hrefusal : out.refusal? row with
    | none =>
      rw [hrefusal] at h
      obtain ⟨hexit, hout, herr⟩ := h
      refine ⟨⟨fun _ => ⟨row, rfl, hrefusal⟩, fun _ => hexit⟩, ?_, ?_, fun code hcode hne => ?_⟩
      · rintro _ ⟨⟩ -
        exact ⟨hout, herr⟩
      · rintro _ err ⟨⟩ hsome
        cases hrefusal.symm.trans hsome
      · rw [hexit] at hcode
        cases hcode
        exact absurd rfl hne
    | some err =>
      rw [hrefusal] at h
      obtain ⟨hexit, -⟩ := h
      refine ⟨⟨fun hzero => ?_, ?_⟩, ?_, ?_, fun code hcode => ?_⟩
      · cases hexit.symm.trans hzero
      · rintro ⟨_, ⟨⟩, hnone⟩
        cases hrefusal.symm.trans hnone
      · rintro _ ⟨⟩ hnone
        cases hrefusal.symm.trans hnone
      · rintro _ _ ⟨⟩ hsome
        cases hrefusal.symm.trans hsome
        exact hexit
      · cases hexit.symm.trans hcode

/-- **The command is its parts, one after the other.** For a sheet that is UTF-8, with a unit of
which one can be measured and without an audit directory, it exits with 0 just where reading,
evaluating and writing down all succeed and standard output takes the row, and then the row is what
it prints. A row that is refused leaves no exit code but the error. Any other exit code comes with
an empty output and an error of one of the parts. Whether every record is logged does not show. -/
theorem printed_rowOf (ha : a.auditDir = none) (hu : a.distanceUnit = .text unit)
    (hone : i.units.metres 1.0 (.text unit) = .ok one) {text : String}
    (ht : Text.decodeAs "utf-8" bytes = .ok text) (out : Output) (clock : String)
    (prepared : Except Error Unit) :
    ∃ name, GoesBy a name ∧
      let r := report i out a clock prepared (.ok bytes)
      let stages := rowOf i unit a.polygon name a.description.shown text
      ((r.exit = .ok 0 ↔ ∃ row, stages = .ok row ∧ out.refusal? row = none) ∧
        (∀ row, stages = .ok row → out.refusal? row = none → r.out = row ++ "\n" ∧ r.err = "") ∧
        (∀ row err, stages = .ok row → out.refusal? row = some err → r.exit = .error err) ∧
        ∀ code, r.exit = .ok code → code ≠ 0 → r.out = "" ∧ ∃ err, stages = .error err) ∧
      ∀ verbose,
        (report i out { a with verbose } clock prepared (.ok bytes)).printed = r.printed := by
  refine ⟨geometryName a, goesBy_geometryName a, ?_⟩
  intro r stages
  have hr : r = processSheet i out a (evaluatorFor i a unit).settings none (.ok bytes) :=
    report_eq ha hu hone out clock prepared (.ok bytes)
  refine ⟨printed_of_comesTo (hr ▸ comesTo_processSheet i out ht), fun verbose => ?_⟩
  rw [hr, report_eq (a := { a with verbose }) ha hu hone]
  exact printed_processSheet i out a verbose unit bytes

/-- A sheet of one point. -/
def onePoint : List UInt8 := "H,P,Latitude,Longitude\nP,1,2\n".toUTF8.toList

/-- The sheet of one point, in meters, printed in UTF-8. -/
theorem printed_rowOf_onePoint :
    inMeters.auditDir = none ∧ inMeters.distanceUnit = .text "meter" ∧
    (∃ one, Instruments.known.units.metres 1.0 (.text "meter") = .ok one) ∧
    ∃ text, Text.decodeAs "utf-8" onePoint = .ok text ∧
    ∃ name, GoesBy inMeters name ∧
      let r := report .known .utf8 inMeters "" (.ok ()) (.ok onePoint)
      let stages := rowOf .known "meter" false name "" text
      (r.exit = .ok 0 ↔ ∃ row, stages = .ok row ∧ Output.utf8.refusal? row = none) ∧
      (∀ code, r.exit = .ok code → code ≠ 0 → r.out = "" ∧ ∃ err, stages = .error err) ∧
      ∀ verbose, (report .known .utf8 { inMeters with verbose } "" (.ok ())
        (.ok onePoint)).printed = r.printed := by
  have hone := UnitLibrary.metres_meter_eq 1.0
  obtain ⟨text, ht⟩ : ∃ text, Text.decodeAs "utf-8" onePoint = .ok text := by
    rw [Text.decodeAs_utf8]
    exact exists_eq_ok (by decide +kernel)
  obtain ⟨name, hname, ⟨hzero, -, -, hother⟩, hverbose⟩ :=
    printed_rowOf (i := .known) (a := inMeters) rfl rfl hone ht .utf8 "" (.ok ())
  exact ⟨rfl, rfl, ⟨_, hone⟩, text, ht, name, hname, hzero, hother, hverbose⟩

end MetesBounds.Command
