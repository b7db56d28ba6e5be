import MetesBounds.Evaluation
import MetesBounds.Trail.Export

/-!
# `Evaluation/Run` — a list of calls, with or without an audit trail

A run takes the items one by one until one fails. With a trail every completed step is written to
it, and the run is entered before the first step and ended after the last.
-/

set_option autoImplicit false

namespace MetesBounds

/-- What a run leads to: the points found, their stations, and what names are bound to. -/
structure Result where
  points : List Point
  stations : List Station
  symbols : Table Symbol Value

namespace Result

/-- The result that a state holds. -/
def ofTraverse (t : Traverse) : Result := ⟨t.points, t.stations, t.symbols⟩

/-- The position of the first point that a label led to. -/
def indexOf (r : Result) (label : String) : Except Error Nat :=
  match r.stations.findIdx? fun s => s.label == label with
  | some i => .ok i
  | none => .error (.noStation (Text.quoted label))

/-- The first point that a label led to. -/
def pointFor (r : Result) (label : String) : Except Error Point := do
  let i ← r.indexOf label
  match r.points[i]? with
  | some p => .ok p
  | none => .error (.noStation (Text.quoted label))

end Result

/-- What an audited evaluation comes to. -/
structure Audited (α : Type) where
  outcome : Outcome α
  trail : Option Trail

namespace Evaluator

variable (e : Evaluator)

/-- One item, written to the trail if there is one. -/
def auditedStep (t : Traverse) (trail : Option Trail) (item : Item) (index : Int) :
    Audited Value :=
  let o := e.step t item index
  match o.result with
  | .error err => ⟨⟨.error err, o.traverse, o.log⟩, trail⟩
  | .ok s =>
    match trail, item with
    | some trail, .call c =>
      match c.label with
      | .error err => ⟨⟨.error err, o.traverse, o.log⟩, some trail⟩
      | .ok label =>
        match s.value.written with
        | .error err => ⟨⟨.error err, o.traverse, o.log⟩, some trail⟩
        | .ok shown =>
          let (trail, log) := trail.record index label c.kind.tag shown s.producedPoint
          ⟨⟨.ok s.value, o.traverse, o.log ++ log⟩, some trail⟩
    | trail, _ => ⟨⟨.ok s.value, o.traverse, o.log⟩, trail⟩

/-- The end of a run that no item has failed. -/
def finish (t : Traverse) (count : Nat) : Outcome Unit :=
  let message :=
    "Evaluated " ++ toString count ++ " records into " ++ toString t.points.length ++ " points"
  match e.note .info message with
  | .ok log => ⟨.ok (), t, log⟩
  | .error err => .failed t err

/-- Items one by one; `count` of the run's items have been before them. -/
def runFrom (count : Nat) (t : Traverse) (trail : Option Trail) : List Item → Audited Unit
  | [] => ⟨e.finish t count, trail⟩
  | item :: rest =>
    let a := e.auditedStep t trail item count
    match a.outcome.result with
    | .error err => ⟨⟨.error err, a.outcome.traverse, a.outcome.log⟩, a.trail⟩
    | .ok _ =>
      let b := runFrom (count + 1) a.outcome.traverse a.trail rest
      ⟨b.outcome.after a.outcome.log, b.trail⟩

/-- The result of a run that has come to its end. -/
def resultOf (o : Outcome Unit) : Outcome Result :=
  ⟨(fun _ => Result.ofTraverse o.traverse) <$> o.result, o.traverse, o.log⟩

/-- Evaluates items on a state. -/
def evaluate (t : Traverse) (items : List Item) : Outcome Result :=
  resultOf (e.runFrom 0 t none items).outcome

/-- Evaluates items on a state inside of a run that a trail has just entered, given the place of
the run and what entering it has reported. -/
def evaluateEntered (t : Traverse) (entered : Trail) (n : Nat) (opening : List Line)
    (items : List Item) : Outcome Result × Trail :=
  let a := e.runFrom 0 t (some entered) items
  let reached := a.trail.getD entered
  let (left, closing) :=
    match a.outcome.result with
    | .ok _ => reached.exit n
    | .error err => reached.fail n err.recorded
  let o := a.outcome.after opening
  (resultOf { o with log := o.log ++ closing }, left)

/-- Evaluates items on a state, as a run of a trail. Settings that cannot be written have no
fingerprint, and then no run is entered. -/
def evaluateAudited (t : Traverse) (trail : Trail) (id : String) (items : List Item) :
    Outcome Result × Trail :=
  match Trail.configHashOf e.settings.toValue with
  | .error err => (.failed t err, trail)
  | .ok hash =>
    let (entered, n, opening) := trail.enter id hash
    e.evaluateEntered t entered n opening items

/-- The points that items lead to from the beginning. -/
def destinationPoints (items : List Item) : Outcome (List Point) :=
  let o := e.evaluate e.start items
  ⟨Result.points <$> o.result, o.traverse, o.log⟩

end Evaluator

end MetesBounds
