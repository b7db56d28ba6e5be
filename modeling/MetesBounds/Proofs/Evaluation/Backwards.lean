import MetesBounds.Instruments.Known
import MetesBounds.Proofs.Angle.Limits
import MetesBounds.Proofs.Calculation.Overlong
import MetesBounds.Proofs.Evaluation.Run

/-!
# `Evaluation/Backwards` — walking a line backwards

A line call of direction FALSE walks on the bearing opposite to its own. A call of direction TRUE
that gives this opposite bearing as a number has it reduced to one turn once more, which changes
nothing; so it walks the same line, and everything that follows from the walk is the same, errors
included. Only the line of the log that shows the call as it was written tells the two apart.

Main statement: `Evaluator.backwards_is_opposite`.
-/

set_option autoImplicit false

namespace MetesBounds

/-! ## Bearings given as numbers -/

/-- Only a finite angle is finite within one turn. -/
theorem isFinite_of_wrap {x : Float} (h : (Reckoning.double.wrap x).isFinite = true) :
    x.isFinite = true := by
  by_contra hx
  rw [Bool.not_eq_true] at hx
  have hnan := not_isFinite_of_isNaN (wrap_of_not_isFinite hx)
  rw [h] at hnan
  cases hnan

/-- **An angle within one turn is read as it is** where it is given as a number. -/
theorem bearingOfValue_wrap {x : Float} (hx : x.isFinite = true) :
    bearingOfValue .double (.number (.real (Reckoning.double.wrap x))) =
      .ok (Reckoning.double.wrap x) := by
  change Except.ok (Reckoning.double.wrap (Reckoning.double.wrap x)) = _
  rw [wrap_wrap hx]

/-- An opposite bearing is read as it is. -/
theorem bearingOfValue_of_opposite {v : Value} {x : Float}
    (h : oppositeOfValue .double v = .ok x) (hx : x.isFinite = true) :
    bearingOfValue .double (.number (.real x)) = .ok x := by
  obtain ⟨azimuth, -, h⟩ := bind_eq_ok.mp h
  cases h
  exact bearingOfValue_wrap (isFinite_of_wrap hx)

/-! ## Line calls -/

/-- The line call that walks as far, on a bearing that is given as a number. -/
def LineCall.onBearing (c : LineCall) (n : Number) (direction : Value) : LineCall :=
  { c with bearing := .number n, direction := direction }

/-- Line calls with the same memo have the same label. -/
theorem label_line {c c' : LineCall} (hmemo : c'.memo = c.memo) :
    Call.label (.line c') = Call.label (.line c) := congrArg (Call.labelWith .line) hmemo

section Substitution

variable {t : Traverse} {c : LineCall} {bearing direction right right' : Value} {n : Number}

/-- Of two line calls that differ in bearing and direction, references are replaced in both or in
neither if this can be done in bearing and direction. -/
theorem Traverse.substitute_line (hbearing : t.resolveField .bearing c.bearing = .ok bearing)
    (hdirection : t.resolveField .direction c.direction = .ok direction)
    (hright : t.resolveField .direction right = .ok right') :
    (∃ err, t.substitute (.line c) = .error err ∧
      t.substitute (.line (c.onBearing n right)) = .error err) ∨
    ∃ distance memo, t.substitute (.line c) = .ok (.line ⟨bearing, distance, direction, memo⟩) ∧
      t.substitute (.line (c.onBearing n right)) =
        .ok (.line ⟨.number n, distance, right', memo⟩) := by
  have hnumber : t.resolveField .bearing (.number n) = .ok (.number n) := rfl
  rw [substitute, substitute, Call.mapFields, Call.mapFields, LineCall.onBearing, hnumber,
    hbearing, hdirection, hright]
  dsimp only
  cases t.resolveField .distance c.distance with
  | error err => exact .inl ⟨err, rfl, rfl⟩
  | ok distance =>
    cases t.resolveField .memo c.memo with
    | error err => exact .inl ⟨err, rfl, rfl⟩
    | ok memo => exact .inr ⟨distance, memo, rfl, rfl⟩

end Substitution

namespace Evaluator

variable {e : Evaluator} {t : Traverse} {c : LineCall} {bearing direction right right' : Value}
  {x : Float}

theorem bearingOf_of_backwards {distance memo : Value}
    (hbackwards : directionOfValue direction = .ok false) :
    bearingOf ⟨bearing, distance, direction, memo⟩ = oppositeOfValue .double bearing := by
  rw [bearingOf, hbackwards]
  rfl

theorem bearingOf_of_forwards {distance memo : Value}
    (hforwards : directionOfValue direction = .ok true) :
    bearingOf ⟨bearing, distance, direction, memo⟩ = bearingOfValue .double bearing := by
  rw [bearingOf, hforwards]
  rfl

theorem settle_line {c' : LineCall} (hmemo : c'.memo = c.memo) (index : Int) (v : Value) :
    settle t (.line c') index v = settle t (.line c) index v := by
  have hlocates (c : LineCall) : (Call.line c).kind ≠ .binding := Call.ne_binding_of_locates rfl
  rw [settle_of_ne_binding (hlocates c'), settle_of_ne_binding (hlocates c), label_line hmemo]

/-- Calls that are completed alike make steps that differ in what is logged before at most, if both
can be written or neither. -/
theorem step_congr {c c' : Call} {index : Int} (hlong : c'.isOverlong = c.isOverlong)
    (h : e.complete t c' index = e.complete t c index) :
    (e.step t (.call c') index).result = (e.step t (.call c) index).result ∧
      (e.step t (.call c') index).traverse = (e.step t (.call c) index).traverse := by
  by_cases ha : e.Announces c
  · obtain ⟨hresult, htraverse⟩ := step_of_announces ha t index
    obtain ⟨hresult', htraverse'⟩ := step_of_announces ⟨hlong.trans ha.1, ha.2⟩ t index
    rw [hresult, hresult', htraverse, htraverse', h]
    exact ⟨rfl, rfl⟩
  · obtain ⟨err, herr⟩ := step_of_not_announces ha
    rw [herr t c' index hlong, herr t c index rfl]
    exact ⟨rfl, rfl⟩

/-- Bearings and directions that are read do not decide whether a line call can be written. -/
theorem isOverlong_onBearing (hbearing : c.bearing.isOverlong = false)
    (hdirection : c.direction.isOverlong = false) (hright : right.isOverlong = false) :
    (Call.line (c.onBearing (.real x) right)).isOverlong = (Call.line c).isOverlong := by
  simp only [Call.isOverlong, Call.entries, LineCall.onBearing, List.any_cons, hbearing, hdirection,
    hright, Value.isOverlong, Number.isOverlong]

/-- A trail holds of a step what comes of it, and the label and the kind of the call. -/
theorem auditedStep_congr {c' : LineCall} {index : Int} (trail : Option Trail)
    (hmemo : c'.memo = c.memo)
    (hresult : (e.step t (.call (.line c')) index).result =
      (e.step t (.call (.line c)) index).result)
    (htraverse : (e.step t (.call (.line c')) index).traverse =
      (e.step t (.call (.line c)) index).traverse) :
    let a := e.auditedStep t trail (.call (.line c)) index
    let a' := e.auditedStep t trail (.call (.line c')) index
    a'.outcome.result = a.outcome.result ∧ a'.outcome.traverse = a.outcome.traverse ∧
      a'.trail = a.trail := by
  dsimp only
  rw [auditedStep, auditedStep, hresult, htraverse]
  cases (e.step t (.call (.line c)) index).result with
  | error err => exact ⟨rfl, rfl, rfl⟩
  | ok s =>
    cases trail with
    | none => exact ⟨rfl, rfl, rfl⟩
    | some trail =>
      dsimp only
      rw [label_line hmemo]
      cases Call.label (.line c) with
      | error err => exact ⟨rfl, rfl, rfl⟩
      | ok label =>
        dsimp only
        cases s.value.written with
        | error err => exact ⟨rfl, rfl, rfl⟩
        | ok shown => exact ⟨rfl, rfl, rfl⟩

section Backwards

variable (hbearing : t.resolveField .bearing c.bearing = .ok bearing)
  (hdirection : t.resolveField .direction c.direction = .ok direction)
  (hbackwards : directionOfValue direction = .ok false)
  (hx : oppositeOfValue .double bearing = .ok x) (hfinite : x.isFinite = true)
  (hright : t.resolveField .direction right = .ok right')
  (hforwards : directionOfValue right' = .ok true)

include hbearing hdirection hbackwards hx hfinite hright hforwards

/-- Both calls lead from where the traverse stands to the same end. -/
theorem perform_backwards :
    e.perform t (.line (c.onBearing (.real x) right)) = e.perform t (.line c) := by
  have hline (c : LineCall) := perform_of_ne_binding (e := e) (t := t) (c := .line c)
    (Call.ne_binding_of_locates rfl)
  rw [hline, hline]
  rcases Traverse.substitute_line hbearing hdirection hright with
    ⟨err, h, h'⟩ | ⟨distance, memo, h, h'⟩
  · rw [h, h']
  · rw [h, h']
    have hback : bearingOf ⟨bearing, distance, direction, memo⟩ = .ok x :=
      (bearingOf_of_backwards hbackwards).trans hx
    have hforth : bearingOf ⟨.number (.real x), distance, right', memo⟩ = .ok x :=
      (bearingOf_of_forwards hforwards).trans (bearingOfValue_of_opposite hx hfinite)
    dsimp only
    rw [act, act, lineEnd, lineEnd, hback, hforth]

/-- The result is taken in under the same label. -/
theorem complete_backwards (index : Int) :
    e.complete t (.line (c.onBearing (.real x) right)) index = e.complete t (.line c) index := by
  have hsettle (t : Traverse) (v : Value) :
      settle t (.line (c.onBearing (.real x) right)) index v =
        settle t (.line c) index v := settle_line rfl index v
  rw [complete, complete,
    perform_backwards hbearing hdirection hbackwards hx hfinite hright hforwards]
  cases (e.perform t (.line c)).result with
  | error err => rfl
  | ok v =>
    dsimp only
    rw [hsettle]

/-- **Walking a line backwards is walking its opposite bearing.** A line call of direction FALSE
comes to the same result as the call of direction TRUE that gives the opposite bearing as a number,
or to the same error, and leaves the same traverse and the same trail: such a number is read as it
is. -/
theorem backwards_is_opposite (index : Int) (trail : Option Trail) :
    let forth := c.onBearing (.real x) right
    let step := e.step t (.call (.line c)) index
    let step' := e.step t (.call (.line forth)) index
    let audited := e.auditedStep t trail (.call (.line c)) index
    let audited' := e.auditedStep t trail (.call (.line forth)) index
    step'.result = step.result ∧ step'.traverse = step.traverse ∧
      audited'.outcome.result = audited.outcome.result ∧
      audited'.outcome.traverse = audited.outcome.traverse ∧ audited'.trail = audited.trail ∧
      ∀ y : Float, y.isFinite = true → bearingOfValue .double
        (.number (.real (Reckoning.double.wrap y))) = .ok (Reckoning.double.wrap y) := by
  intro forth step step' audited audited'
  obtain ⟨_, hazimuth, -⟩ := bind_eq_ok.mp hx
  have hlong : (Call.line forth).isOverlong = (Call.line c).isOverlong :=
    isOverlong_onBearing
      (Traverse.isOverlong_of_resolveField hbearing (Value.isOverlong_of_bearing hazimuth))
      (Traverse.isOverlong_of_resolveField hdirection (Value.isOverlong_of_direction hbackwards))
      (Traverse.isOverlong_of_resolveField hright (Value.isOverlong_of_direction hforwards))
  obtain ⟨hresult, htraverse⟩ := step_congr (e := e) hlong
    (complete_backwards hbearing hdirection hbackwards hx hfinite hright hforwards index)
  have hmemo : (c.onBearing (.real x) right).memo = c.memo := rfl
  obtain ⟨haudited, hleft, htrail⟩ := auditedStep_congr trail hmemo hresult htraverse
  exact ⟨hresult, htraverse, haudited, hleft, htrail, fun _ => bearingOfValue_wrap⟩

end Backwards

/-- A line along a bearing that is bound under a name, walked backwards. -/
theorem backwards_is_opposite_bound :
    let e : Evaluator := .standard .known .usual
    let p : Point := { latitude := .whole 37, longitude := .whole (-122) }
    let t := (e.start.advance p "P1" 0).bind (.named "b") (.text "N45 30 0E")
    let c : LineCall := ⟨.text "$b", .number (.whole 100), .text "false", .text "2"⟩
    let forth := c.onBearing (.real 225.5) (.text "TRUE")
    t.current.isSome = true ∧
      oppositeOfValue .double (.text "N45 30 0E") = .ok 225.5 ∧
      (e.step t (.call (.line forth)) 1).result = (e.step t (.call (.line c)) 1).result ∧
      (e.step t (.call (.line forth)) 1).traverse = (e.step t (.call (.line c)) 1).traverse := by
  intro e p t c forth
  have hx : oppositeOfValue .double (.text "N45 30 0E") = .ok 225.5 :=
    eq_ok_of_toOption (by decide +kernel)
  have hbearing : t.resolveField .bearing c.bearing = .ok (.text "N45 30 0E") := rfl
  have hdirection : t.resolveField .direction c.direction = .ok (.text "false") := rfl
  have hright : t.resolveField .direction (.text "TRUE") = .ok (.text "TRUE") := rfl
  obtain ⟨hresult, htraverse, -⟩ := backwards_is_opposite (e := e) hbearing hdirection rfl hx
    (by decide +kernel) hright rfl 1 none
  exact ⟨rfl, hx, hresult, htraverse⟩

end Evaluator

end MetesBounds
