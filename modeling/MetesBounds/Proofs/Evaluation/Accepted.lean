import MetesBounds.Instruments.Known
import MetesBounds.Proofs.Calculation.Measures
import MetesBounds.Proofs.Command.Evaluating

/-!
# `Evaluation/Accepted` — what settings are checked for is not found wanting later

Settings are accepted if their radius is positive and their unit is one of length. That is looked
at once, on the number one. The unit is used later by every line and every curve, and the unit of
feet by a procedure, on values of any kind and on what references stand for; the radius is looked at
again whenever a great circle is followed. What has passed once passes again, where the library of
units does not judge an expression by the number before it (`UnitLibrary.Uniform`): an evaluation
may fail over its calls, and over a radius that the library of great circles does not take, but
never over a unit, nor because the radius of its sphere is not positive.

Main statement: `Settings.accepted_measures`.
-/

set_option autoImplicit false

namespace MetesBounds

/-! ## What is checked -/

namespace Settings

variable {units : UnitLibrary} {v : Value} {n : Number}

/-- A radius is accepted if it is a number that is not zero or less. -/
theorem radiusOf_eq_ok : radiusOf v = .ok n ↔ v = .number n ∧ n.atMost 0 = false := by
  constructor
  · intro h
    unfold radiusOf at h
    split at h
    · split at h
      · cases h
      · next hn =>
        cases h
        exact ⟨rfl, Bool.eq_false_iff.mpr hn⟩
    · cases h
  · rintro ⟨rfl, hn⟩
    exact if_neg (Bool.eq_false_iff.mp hn)

/-- A unit is accepted if one of it can be measured. -/
theorem checkUnit_eq_ok : checkUnit units v = .ok () ↔ ∃ x, units.metres 1.0 v = .ok x := by
  rw [checkUnit]
  cases units.metres 1.0 v with
  | error err => exact iff_of_false nofun nofun
  | ok x => exact iff_of_true rfl ⟨x, rfl⟩

end Settings

/-! ## What is used -/

/-- An error that finds no fault with what an evaluation measures by. -/
def Error.SparesMeasures (err : Error) : Prop := err.ofMeasures = false

/-- Whether a library of great circles finds no fault with a unit, nor refuses a radius for its
sign. What it does not take it refuses in its own words. -/
def SphereLibrary.SparesMeasures (l : SphereLibrary) : Prop :=
  ∀ n, FailsIn Error.SparesMeasures (l.greatCircles n)

/-- A radius that is not refused for its sign is refused by the library at most. -/
theorem SphereLibrary.SparesMeasures.ofRadius {l : SphereLibrary} (h : l.SparesMeasures)
    {n : Number} (hn : n.atMost 0 = false) :
    FailsIn Error.SparesMeasures (l.ofRadius (.number n)) := by
  have hc : l.ofRadius (.number n) = l.greatCircles n := by
    simp only [SphereLibrary.ofRadius, Value.unkeyed?, hn]
    rfl
  rw [hc]
  exact h n

namespace Evaluator

variable {e : Evaluator}

/-- Whether nothing that an evaluator does ends in a fault of a unit or of its sphere: no step,
with a trail or without, and no run of items from any state. -/
structure SparesMeasures (e : Evaluator) : Prop where
  step (t : Traverse) (item : Item) (index : Int) :
    FailsIn Error.SparesMeasures (e.step t item index).result
  auditedStep (t : Traverse) (trail : Option Trail) (item : Item) (index : Int) :
    FailsIn Error.SparesMeasures (e.auditedStep t trail item index).outcome.result
  evaluate (t : Traverse) (items : List Item) :
    FailsIn Error.SparesMeasures (e.evaluate t items).result
  evaluateAudited (t : Traverse) (trail : Trail) (id : String) (items : List Item) :
    FailsIn Error.SparesMeasures (e.evaluateAudited t trail id items).1.result

/-- On a sphere whose radius is spared everything that may come up spares unit and sphere. -/
theorem spares_of_foreseenOn
    (hr : FailsIn Error.SparesMeasures (e.spheres.ofRadius e.radius)) {α : Type}
    {x : Except Error α} (hx : FailsIn (Error.ForeseenOn e.spheres e.radius) x) :
    FailsIn Error.SparesMeasures x := by
  intro err he
  rcases hx err he with hforeseen | hradius
  · exact hforeseen.1
  · exact hr err hradius

theorem Prepared.sparesMeasures (h : e.Prepared)
    (hr : FailsIn Error.SparesMeasures (e.spheres.ofRadius e.radius)) : e.SparesMeasures where
  step t item index := spares_of_foreseenOn hr (h.step t item index)
  auditedStep t trail item index := spares_of_foreseenOn hr (h.auditedStep t trail item index)
  evaluate t items := spares_of_foreseenOn hr (h.evaluate t items)
  evaluateAudited t trail id items := spares_of_foreseenOn hr (h.evaluateAudited t trail id items)

end Evaluator

/-! ## Accepted settings -/

/-- Whether a distance in a unit is measured wherever it is a number: it fails just where no number
can be read, and with the error of that. -/
def UnitLibrary.MeasuresNumbers (l : UnitLibrary) (unit : Value) : Prop :=
  ∀ v err, l.metresOfValue unit v = .error err ↔ v.toFloat = .error err

theorem UnitLibrary.Measures.measuresNumbers {l : UnitLibrary} {unit : Value}
    (h : l.Measures unit) : l.MeasuresNumbers unit := fun _ _ => h.metresOfValue_eq_error

namespace Settings

variable {i : Instruments} {one : Float}

/-- **Settings that are accepted measure whatever comes.** Take libraries of which that of units
knows feet and does not judge an expression by the number before it, and that of great circles fails
in its own words. Under accepted settings, and with the standard procedures, nothing fails over a
unit or over a radius that is not positive, and a distance is measured, in their unit and in feet,
wherever it is a number. -/
theorem accepted_measures (hu : i.units.Uniform)
    (hfoot : i.units.metres 1.0 (.text "foot") = .ok one) (hs : i.spheres.SparesMeasures)
    {radius unit marker turn level : Value} {s : Settings}
    (h : make i.units radius unit marker turn level = .ok s) :
    (Evaluator.standard i s).SparesMeasures ∧ i.units.MeasuresNumbers s.distanceUnit ∧
      i.units.MeasuresNumbers (.text "foot") := by
  obtain ⟨n, hradius, h⟩ := bind_eq_ok.mp h
  obtain ⟨_, hunit, h⟩ := bind_eq_ok.mp h
  cases h
  obtain ⟨-, hn⟩ := radiusOf_eq_ok.mp hradius
  obtain ⟨x, hx⟩ := checkUnit_eq_ok.mp hunit
  have hprepared : (Evaluator.standard i ⟨n, unit, marker, turn, level⟩).Prepared :=
    ⟨hu.measures hx, hu.measures hfoot, rfl⟩
  exact ⟨hprepared.sparesMeasures (hs.ofRadius hn), hprepared.unit.measuresNumbers,
    hprepared.foot.measuresNumbers⟩

/-- The known great circles fail in their own words. -/
theorem sparesMeasures_known : SphereLibrary.known.SparesMeasures := by
  intro n
  refine FailsIn.map ?_
  unfold Sphere.radiusOfNumber
  split
  · exact .ite (.ok _) (.ite (.error rfl) (.ite (.error rfl) (.ok _)))
  · exact (Number.reckons_toFloat _).mono fun _ herr => herr.foreseen.1

/-- Settings in meters, with the known libraries. -/
theorem accepted_measures_meter :
    let s : Settings := ⟨.whole 6371000, .text "meter", .text "$", .ofInt 90, .ofInt 20⟩
    UnitLibrary.known.Uniform ∧
    (∃ one, UnitLibrary.known.metres 1.0 (.text "foot") = .ok one) ∧
    SphereLibrary.known.SparesMeasures ∧
    make .known (.ofInt 6371000) (.text "meter") (.text "$") (.ofInt 90) (.ofInt 20) = .ok s ∧
    (Evaluator.standard .known s).SparesMeasures ∧
      UnitLibrary.known.MeasuresNumbers (.text "meter") ∧
      UnitLibrary.known.MeasuresNumbers (.text "foot") := by
  intro s
  have hfoot := UnitLibrary.metres_foot_eq 1.0
  have h : make .known (.ofInt 6371000) (.text "meter") (.text "$") (.ofInt 90) (.ofInt 20) =
      .ok s := by
    have hunit := checkUnit_eq_ok.mpr ⟨_, UnitLibrary.metres_meter_eq 1.0⟩
    rw [make, hunit]
    rfl
  exact ⟨UnitLibrary.uniform_known, ⟨_, hfoot⟩, sparesMeasures_known, h,
    accepted_measures (i := .known) UnitLibrary.uniform_known hfoot sparesMeasures_known h⟩

end Settings

end MetesBounds
