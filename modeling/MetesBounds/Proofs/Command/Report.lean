import MetesBounds.Instruments.Known
import MetesBounds.Proofs.Calculation.Measures
import MetesBounds.Proofs.Command.Evaluating
import MetesBounds.Proofs.Sheet.Refusals

/-!
# `Command/Report` — when the command reports, and when an error escapes it

The command is to end with a row, or with a message and an exit code that says so, whatever the
sheet holds. For a unit that can be measured it does, but for three errors that it is not prepared
for: bytes that are no UTF-8, since that is no error of the file system; a whole number of degrees
that is too large for a double, since that is no error of a value; and a row that standard output
does not take, since it is printed when everything has been tried. There are no others.

Main statement: `Command.tells_or_escapes`.
-/

set_option autoImplicit false

namespace MetesBounds.Command

/-- Whether a report says how the command came out: with a row and nothing else, or with a message
and nothing else. -/
def Report.Tells (r : Report) : Prop :=
  (r.exit = .ok 0 ∧ (∃ geometry name description,
    r.out = Wkt.row geometry name description ++ "\n") ∧ r.err = "") ∨
  (r.exit = .ok 1 ∧ r.out = "" ∧ r.err ≠ "")

/-- What is needed of instruments for the command to work in a unit: that distances in it can be
measured and distances in feet, and that there are great circles on the earth's sphere. -/
structure Equipped (i : Instruments) (unit : String) : Prop where
  unit : i.units.Measures (.text unit)
  foot : i.units.Measures (.text "foot")
  earth : ∃ g, i.spheres.ofRadius (.number Settings.usual.sphereRadius) = .ok g

/-- What evaluates the calls of a sheet whose distances are in a unit. -/
def evaluatorFor (i : Instruments) (a : Arguments) (unit : String) : Evaluator :=
  .standard i { Settings.usual with
    distanceUnit := .text unit, logLevel := .ofInt (levelOf a).number }

/-- The evaluation of the calls of a sheet. -/
def evaluation (i : Instruments) (a : Arguments) (unit : String) (calls : List Call) :
    Outcome Result :=
  (evaluatorFor i a unit).evaluate (evaluatorFor i a unit).start (calls.map .call)

/-- Whether a sheet can be read, and its evaluation ends in an error. -/
def EndsIn (i : Instruments) (a : Arguments) (unit : String) (bytes : List UInt8) (err : Error) :
    Prop :=
  ∃ calls, (Sheet.load .usual a.file (.ok bytes)).result = .ok calls ∧
    (evaluation i a unit calls).result = .error err

/-- Whether a sheet comes to a row, and standard output refuses it with an error. -/
def Refused (i : Instruments) (out : Output) (a : Arguments) (unit : String) (bytes : List UInt8)
    (err : Error) : Prop :=
  ∃ calls result geometry, (Sheet.load .usual a.file (.ok bytes)).result = .ok calls ∧
    (evaluation i a unit calls).result = .ok result ∧
    geometryOf a result.points = .ok geometry ∧
    out.refusal? (Wkt.row geometry (geometryName a) a.description.shown) = some err

/-! ## Telling -/

theorem message_ne_empty (words message : String) : words ++ ": " ++ message ++ "\n" ≠ "" := by
  intro h
  have := congrArg String.length h
  simp at this

/-- An error that the command is prepared for is told. -/
theorem tells_tell {prepared : Family → Bool} {e : Error} (h : prepared e.family = true)
    (words : String) : (tell prepared words e).Tells := by
  rw [tell, if_pos h]
  exact .inr ⟨rfl, rfl, message_ne_empty words e.message⟩

/-- Points are exported, or it is told why not: a ring that does not close is an error of a
value. Only the output may have an error escape, by refusing the row. -/
theorem tells_exportPoints (out : Output) (a : Arguments) (points : List Point) (calls : Nat) :
    (exportPoints out a points calls).Tells ∨ ∃ geometry err, geometryOf a points = .ok geometry ∧
      out.refusal? (Wkt.row geometry (geometryName a) a.description.shown) = some err := by
  have hring : FailsIn (fun e => e.family.ofValue = true) (geometryOf a points) :=
    .ite (.ite (.ok _) (.ite (.error rfl) (.ok _))) (.ok _)
  unfold exportPoints
  dsimp only
  split
  · next e he => exact .inl (tells_tell (hring e he) "Cannot export traverse")
  · next geometry hgeometry =>
    split
    · next err herr => exact .inr ⟨geometry, err, hgeometry, herr⟩
    · exact .inl (.inl ⟨rfl, ⟨_, _, _, rfl⟩, rfl⟩)

/-- A row that the output refuses escapes. -/
theorem exit_exportPoints {out : Output} {a : Arguments} {points : List Point} {geometry : String}
    {err : Error} (hg : geometryOf a points = .ok geometry)
    (h : out.refusal? (Wkt.row geometry (geometryName a) a.description.shown) = some err)
    (calls : Nat) : (exportPoints out a points calls).exit = .error err := by
  simp only [exportPoints, hg, h]
  rfl

/-! ## Settings -/

variable {i : Instruments} {out : Output} {a : Arguments} {unit : String} {one : Float}

/-- The settings for a unit are accepted if one of it can be measured. -/
theorem settingsOf_eq_ok (hu : a.distanceUnit = .text unit)
    (hone : i.units.metres 1.0 (.text unit) = .ok one) :
    settingsOf i.units a = .ok (evaluatorFor i a unit).settings := by
  have hr : Settings.radiusOf (.number Settings.usual.sphereRadius) =
      .ok Settings.usual.sphereRadius := by
    rw [Settings.radiusOf, if_neg (by decide +kernel)]
  simp only [settingsOf, hu, Settings.make, hr, Settings.checkUnit, hone]
  rfl

theorem prepared_evaluatorFor (hi : Equipped i unit) : (evaluatorFor i a unit).Prepared where
  unit := hi.unit
  foot := hi.foot
  procedures := rfl

/-- Without an audit directory the report is that of the sheet. -/
theorem report_eq (ha : a.auditDir = none) (hu : a.distanceUnit = .text unit)
    (hone : i.units.metres 1.0 (.text unit) = .ok one) (out : Output) (clock : String)
    (prepared : Except Error Unit) (content : Except Error (List UInt8)) :
    report i out a clock prepared content =
      processSheet i out a (evaluatorFor i a unit).settings none content := by
  rw [report, settingsOf_eq_ok hu hone]
  simp only [ha]

/-! ## Reading and evaluating a sheet -/

variable {bytes : List UInt8}

/-- Bytes that are no UTF-8 escape: the command is prepared for errors of files and of sheets. -/
theorem exit_of_undecodable {err : Error} (h : Text.Utf8.read bytes = .error err) (i : Instruments)
    (out : Output) (s : Settings) :
    (processSheet i out a s none (.ok bytes)).exit = .error err := by
  have hload : (Sheet.load .usual a.file (.ok bytes)).result = .error err := by
    rw [Sheet.load_usual, h]
    rfl
  obtain ⟨place, reason, rfl⟩ := Text.Utf8.read_eq_error h
  simp only [processSheet, hload]
  rfl

/-- A text that is refused is told of. -/
theorem tells_of_refused {cs : List Char} (hread : Text.Utf8.read bytes = .ok cs) {err : Error}
    (h : (Sheet.load .usual a.file (.ok bytes)).result = .error err) (i : Instruments)
    (out : Output) (s : Settings) : (processSheet i out a s none (.ok bytes)).Tells := by
  have hparse := h
  rw [Sheet.load_usual, hread] at hparse
  have hr : err.Refusal := Sheet.refuses_parse (by decide) _ err hparse
  have hp : isReadingError err.family = true := by
    rw [isReadingError, hr.ofTraverse, Bool.or_true]
  simp only [processSheet, h]
  exact tells_tell hp "Unable to retrieve records"

theorem processSheet_of_calls (i : Instruments) (out : Output) (unit : String) {calls : List Call}
    (h : (Sheet.load .usual a.file (.ok bytes)).result = .ok calls) :
    ∃ log, processSheet i out a (evaluatorFor i a unit).settings none (.ok bytes) =
      { conclude out a calls.length (evaluation i a unit calls) with log := log } := by
  simp only [processSheet, h]
  exact ⟨_, rfl⟩

/-- An error of an evaluation escapes if the command is not prepared for it. -/
theorem exit_of_endsIn {err : Error} (h : EndsIn i a unit bytes err)
    (hp : isEvaluationError err.family = false) (out : Output) :
    (processSheet i out a (evaluatorFor i a unit).settings none (.ok bytes)).exit =
      .error err := by
  obtain ⟨calls, hcalls, ho⟩ := h
  obtain ⟨log, hs⟩ := processSheet_of_calls i out unit hcalls
  rw [hs]
  simp only [conclude, ho, tell, hp]
  rfl

/-- What the output refuses a row with escapes. -/
theorem exit_of_refused {err : Error} (h : Refused i out a unit bytes err) :
    (processSheet i out a (evaluatorFor i a unit).settings none (.ok bytes)).exit =
      .error err := by
  obtain ⟨calls, result, geometry, hcalls, ho, hg, herr⟩ := h
  obtain ⟨log, hs⟩ := processSheet_of_calls i out unit hcalls
  rw [hs]
  simp only [conclude, ho]
  exact exit_exportPoints hg herr calls.length

/-- What comes of calls that have been read: a report, the error of a number that is too large, or
that of a row which the output refuses. -/
theorem tells_or_endsIn (hi : Equipped i unit) (out : Output) {calls : List Call}
    (h : (Sheet.load .usual a.file (.ok bytes)).result = .ok calls) :
    (processSheet i out a (evaluatorFor i a unit).settings none (.ok bytes)).Tells ∨
      EndsIn i a unit bytes .tooLarge ∨ ∃ err, Refused i out a unit bytes err := by
  obtain ⟨log, hs⟩ := processSheet_of_calls i out unit h
  rw [hs]
  cases ho : (evaluation i a unit calls).result with
  | ok result =>
    simp only [conclude, ho]
    rcases tells_exportPoints out a result.points calls.length with ht | ⟨geometry, err, hg, herr⟩
    · exact .inl ht
    · exact .inr (.inr ⟨err, calls, result, geometry, h, ho, hg, herr⟩)
  | error err =>
    simp only [conclude, ho]
    by_cases hp : isEvaluationError err.family = true
    · exact .inl (tells_tell hp "Traverse evaluation failed")
    · have hf : err.Foreseen := by
        refine ((prepared_evaluatorFor hi).evaluate _ _ err ho).resolve_right fun he => ?_
        obtain ⟨g, hg⟩ := hi.earth
        cases hg.symm.trans he
      obtain rfl := hf.2.resolve_left hp
      exact .inr (.inl ⟨calls, h, ho⟩)

/-- **The command reports, except where bytes are no UTF-8, where an evaluation ends in a number
that is too large, or where standard output refuses the row**: these errors escape. -/
theorem tells_or_escapes (ha : a.auditDir = none) (hu : a.distanceUnit = .text unit)
    (hi : Equipped i unit) (out : Output) (clock : String) (prepared : Except Error Unit)
    (bytes : List UInt8) :
    let r := report i out a clock prepared (.ok bytes)
    (r.Tells ∨ (∃ err, Text.Utf8.read bytes = .error err) ∨ EndsIn i a unit bytes .tooLarge ∨
      ∃ err, Refused i out a unit bytes err) ∧
    (∀ err, Text.Utf8.read bytes = .error err → r.exit = .error err) ∧
    (EndsIn i a unit bytes .tooLarge → r.exit = .error .tooLarge) ∧
    ∀ err, Refused i out a unit bytes err → r.exit = .error err := by
  intro r
  obtain ⟨one, hone⟩ := hi.unit 1.0
  have hr : r = processSheet i out a (evaluatorFor i a unit).settings none (.ok bytes) :=
    report_eq ha hu hone out clock prepared (.ok bytes)
  rw [hr]
  refine ⟨?_, fun err h => exit_of_undecodable h _ _ _, fun h => exit_of_endsIn h rfl _,
    fun err => exit_of_refused⟩
  cases hread : Text.Utf8.read bytes with
  | error err => exact .inr (.inl ⟨err, rfl⟩)
  | ok cs =>
    cases hload : (Sheet.load .usual a.file (.ok bytes)).result with
    | error err => exact .inl (tells_of_refused hread hload _ _ _)
    | ok calls => exact (tells_or_endsIn hi out hload).imp_right .inr

/-- The command can work in meters. -/
theorem equipped_meter : Equipped .known "meter" where
  unit := UnitLibrary.uniform_known.measures (UnitLibrary.metres_meter_eq 1.0)
  foot := UnitLibrary.uniform_known.measures (UnitLibrary.metres_foot_eq 1.0)
  earth := exists_eq_ok (by decide +kernel)

/-- The command asked for a sheet in meters, and for nothing else. -/
def inMeters : Arguments := ⟨"sheet.csv", none, .text "", false, .text "meter", false, none⟩

/-- A sheet of one byte that is no UTF-8. -/
theorem tells_or_escapes_badByte :
    inMeters.auditDir = none ∧ inMeters.distanceUnit = .text "meter" ∧ Equipped .known "meter" ∧
    let r := report .known .utf8 inMeters "" (.ok ()) (.ok [0xFF])
    (∃ err, Text.Utf8.read [0xFF] = .error err) ∧
    ∀ err, Text.Utf8.read [0xFF] = .error err → r.exit = .error err := by
  obtain ⟨-, hbytes, -⟩ :=
    tells_or_escapes (a := inMeters) rfl rfl equipped_meter .utf8 "" (.ok ()) [0xFF]
  refine ⟨rfl, rfl, equipped_meter, ?_, hbytes⟩
  rw [Text.Utf8.read, Text.Utf8.readFrom]
  exact ⟨_, rfl⟩

/-- Of that sheet the command reports nothing. -/
theorem not_tells_badByte : ¬(report .known .utf8 inMeters "" (.ok ()) (.ok [0xFF])).Tells := by
  obtain ⟨err, hread⟩ : ∃ err, Text.Utf8.read [0xFF] = .error err := by
    rw [Text.Utf8.read, Text.Utf8.readFrom]
    exact ⟨_, rfl⟩
  rw [report_eq (a := inMeters) rfl rfl (UnitLibrary.metres_meter_eq 1.0)]
  have hexit := exit_of_undecodable (a := inMeters) hread .known .utf8
    (evaluatorFor .known inMeters "meter").settings
  rintro (⟨h, -⟩ | ⟨h, -⟩) <;> rw [hexit] at h <;> cases h

end MetesBounds.Command
