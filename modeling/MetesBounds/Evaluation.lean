import MetesBounds.Curve.OnSphere
import MetesBounds.Registry.Standard
import MetesBounds.Settings

/-!
# `Evaluation` — one call after the other

An evaluator walks a traverse through its calls. A call first has its references replaced; then a
point call leads to its point, a line or curve call to the end of its leg, a procedure call to what
the procedure gives, and a binding call names the last result. Every result but that of a binding
call becomes the last result, and one that is a point joins the traverse under the label of its
call. The first failure ends the evaluation; what was found before it is kept.

Main definitions: `Evaluator.act` (what a call does once its references are replaced) and
`Evaluator.step` (one call, with its result taken in).
-/

set_option autoImplicit false

namespace MetesBounds

/-- What evaluates calls: the libraries that it works with, settings, and the procedures that can
be called. -/
structure Evaluator extends Instruments where
  settings : Settings
  procedures : Registry

/-- An evaluator that offers the standard procedures. -/
def Evaluator.standard (i : Instruments) (s : Settings) : Evaluator := ⟨i, s, .standard i.units⟩

/-- What an evaluation comes to: a result or an error, the state it leaves, and what it logs. -/
structure Outcome (α : Type) where
  result : Except Error α
  traverse : Traverse
  log : List Line

namespace Outcome

variable {α : Type}

/-- An error that leaves the state as it is. -/
def failed (t : Traverse) (e : Error) : Outcome α := ⟨.error e, t, []⟩

/-- A result that leaves the state as it is. -/
def ofExcept (t : Traverse) (r : Except Error α) : Outcome α := ⟨r, t, []⟩

/-- What is logged before something. -/
def after (log : List Line) (o : Outcome α) : Outcome α := { o with log := log ++ o.log }

end Outcome

namespace Evaluator

variable (e : Evaluator)

/-- Where every evaluation begins. -/
def start : Traverse := .start e.settings.marker

/-- The radius of the sphere as a value. -/
def radius : Value := .number e.settings.sphereRadius

/-! ## What calls do -/

/-- The point that a point call states. -/
def pointOf (c : PointCall) : Except Error Point := do
  let latitude ← c.latitude.toFloat
  let longitude ← c.longitude.toFloat
  Point.checked (.real latitude) (.real longitude)

/-- The bearing that a line call walks on. -/
def bearingOf (c : LineCall) : Except Error Float := do
  if ← directionOfValue c.direction then bearingOfValue .double c.bearing
  else oppositeOfValue .double c.bearing

/-- The end of the leg of a line call. -/
def lineEnd (t : Traverse) (c : LineCall) : Except Error Point :=
  match t.current with
  | none => do .error (.noStart (← Call.labelWith .line c.memo))
  | some origin => do
    let bearing ← bearingOf c
    let distance ← e.units.metresOfValue e.settings.distanceUnit c.distance
    e.spheres.destination e.radius origin distance (.ofFloat bearing)

/-- The end of the curve of a curve call. -/
def curveEnd (t : Traverse) (c : CurveCall) : Except Error (Point × Line) :=
  Curve.endOnSphere e.toInstruments e.radius e.settings.distanceUnit e.settings.defaultTurn
    t.previous t.current c

/-- Gives the last result a name. -/
def bindLast (t : Traverse) (c : BindingCall) : Outcome Value :=
  match Symbol.ofValue c.name with
  | .ok s => ⟨.ok t.lastResult, t.bind s t.lastResult, []⟩
  | .error err => .failed t err

/-- What a call does once its references are replaced. -/
def act (t : Traverse) : Call → Outcome Value
  | .point c => .ofExcept t (.point <$> pointOf c)
  | .line c => .ofExcept t (.point <$> e.lineEnd t c)
  | .curve c =>
    match e.curveEnd t c with
    | .ok (p, line) => ⟨.ok (.point p), t, [line]⟩
    | .error err => .failed t err
  | .procedure c =>
    let r := e.procedures.call c.name c.args t
    ⟨r.1, r.2, []⟩
  | .binding c => bindLast t c

/-- What a call does. A binding call names what is already there, so its name is not looked up. -/
def perform (t : Traverse) (c : Call) : Outcome Value :=
  match c with
  | .binding b => bindLast t b
  | c =>
    match t.substitute c with
    | .ok c => e.act t c
    | .error err => .failed t err

/-! ## One call -/

/-- Takes in the result of a call: whether it has added a point, and the state after it. -/
def settle (t : Traverse) (c : Call) (index : Int) (v : Value) : Except Error Bool × Traverse :=
  match c with
  | .binding _ => (.ok false, t)
  | c =>
    let t := { t with lastResult := v }
    match v with
    | .point p =>
      match c.label with
      | .ok label => (.ok true, t.advance p label index)
      | .error err => (.error err, t)
    | _ => (.ok false, t)

/-- What a step leads to: its value, with the state shown as the step has left it. -/
structure Step where
  value : Value
  producedPoint : Bool

/-- A call with its result taken in. -/
def complete (t : Traverse) (c : Call) (index : Int) : Outcome Step :=
  let o := e.perform t c
  match o.result with
  | .error err => ⟨.error err, o.traverse, o.log⟩
  | .ok v =>
    match settle o.traverse c index v with
    | (.ok produced, t) => ⟨.ok ⟨t.refresh v, produced⟩, t, o.log⟩
    | (.error err, t) => ⟨.error err, t, o.log⟩

/-- A line of the evaluator's own, where its level is reported. -/
def note (level : Level) (message : String) : Except Error (List Line) := do
  return if ← e.settings.reports level then [⟨.evaluation, level, message⟩] else []

/-- What is reported of a call before it is tried. The call is written down whether or not its
level is reported, and one that cannot be written is not tried. -/
def announce (c : Call) (index : Int) : Except Error (List Line) := do
  let shown ← c.written
  e.note .debug ("record " ++ toString index ++ ": " ++ shown)

/-- One item of a traverse. -/
def step (t : Traverse) (item : Item) (index : Int) : Outcome Step :=
  match item with
  | .other v => .failed t (v.blamed .notACall)
  | .call c =>
    match e.announce c index with
    | .error err => .failed t err
    | .ok log => (e.complete t c index).after log

end Evaluator

end MetesBounds
