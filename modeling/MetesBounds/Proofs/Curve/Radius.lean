import MetesBounds.Curve.OnSphere
import MetesBounds.Proofs.Calculation.Directions
import MetesBounds.Proofs.Calculation.Measures
import MetesBounds.Proofs.Calculation.Turn

/-!
# `Curve/Radius` — which radii a curve may have

Where the central angle of a curve is left open, it follows from the arc length and the radius, and
a radius that is at most zero is refused there. Where the angle is stated, nobody looks at the
radius but to go that far, and one goes backwards for a radius below zero: the curve is laid out
around a center on the wrong side of its start. Only a radius that is not finite leads nowhere: that
is refused by the great circles (`Globe.Bounded`), of which nothing else is used.

Main statement: `Curve.positive_or_stated`.
-/

set_option autoImplicit false

namespace MetesBounds

open Binary64

variable {α P : Type}

/-! ## Great circles -/

/-- Nothing lies at a distance that is not finite. -/
def Globe.Bounded (g : Globe Float P) : Prop :=
  ∀ p distance bearing q, g.leadTo p distance bearing = .ok q → distance.isFinite = true

/-- What is reckoned with doubles from a distance that is not finite is no point. -/
theorem Sphere.isFinite_of_forward {radius latitude longitude bearing distance : Float} {q : Point}
    (h : Point.checked (.real (forward radius latitude longitude bearing distance).1)
      (.real (forward radius latitude longitude bearing distance).2) = .ok q) :
    distance.isFinite = true := by
  unfold forward at h
  dsimp only at h
  split at h
  · next hfinite =>
    simp only [Bool.and_eq_true] at hfinite
    exact isFinite_of_div hfinite.1.2
  · cases h

/-- The great circles of a sphere that are reckoned with doubles lead nowhere at a distance that is
not finite. -/
theorem SphereLibrary.bounded_known (radius : Value) : (known.globe radius).Bounded := by
  intro p distance bearing q h
  obtain ⟨g, hg, h⟩ := bind_eq_ok.mp h
  obtain ⟨n, -, -, hg⟩ := ofRadius_eq_ok.mp hg
  obtain ⟨r, -, hg⟩ := bind_eq_ok.mp hg
  cases hg
  obtain ⟨b, -, h⟩ := bind_eq_ok.mp h
  obtain ⟨latitude, -, h⟩ := bind_eq_ok.mp h
  obtain ⟨longitude, -, h⟩ := bind_eq_ok.mp h
  exact Sphere.isFinite_of_forward h

/-! ## Lengths -/

/-- What is measured in metres is a number, and a finite one where it is finite in metres. -/
def MeasuresNumbers (metres : Value → Except Error Float) : Prop :=
  ∀ v length, metres v = .ok length →
    ∃ x, v.toFloat = .ok x ∧ (length.isFinite = true → x.isFinite = true)

/-- The known units are multiplied by the number of them. -/
theorem UnitLibrary.measuresNumbers_known (unit : Value) :
    MeasuresNumbers (known.metresOfValue unit) := by
  intro v length h
  obtain ⟨x, hx, h⟩ := bind_eq_ok.mp h
  obtain ⟨u, -, h⟩ := bind_eq_ok.mp h
  obtain ⟨_, -, h⟩ := bind_eq_ok.mp h
  obtain ⟨size, -, h⟩ := bind_eq_ok.mp h
  cases h
  exact ⟨x, hx, isFinite_of_mul⟩

namespace Curve

/-! ## What a curve that is laid out has gone through -/

section LayingOut

variable {k : Reckoning α} {g : Globe α P} {metres : Value → Except Error α} {usual : Value}
  {c : CurveCall} {curve : Curve α P}

theorem resolve_eq_ok {previous start : Option P}
    (h : resolve k g metres usual previous start c = .ok curve) :
    ∃ p q clockwise delta turn radius, previous = some p ∧ start = some q ∧
      directionOfValue c.direction = .ok clockwise ∧ deltaOf k c = .ok delta ∧
      turnOf k c clockwise usual = .ok turn ∧ metres c.radius = .ok radius ∧
      layOut k g p q clockwise delta turn radius = .ok curve := by
  unfold resolve at h
  split at h
  · next p q =>
    obtain ⟨clockwise, hclockwise, h⟩ := bind_eq_ok.mp h
    obtain ⟨delta, hdelta, h⟩ := bind_eq_ok.mp h
    obtain ⟨turn, hturn, h⟩ := bind_eq_ok.mp h
    obtain ⟨radius, hradius, h⟩ := bind_eq_ok.mp h
    exact ⟨p, q, clockwise, delta, turn, radius, rfl, rfl, hclockwise, hdelta, hturn, hradius, h⟩
  · obtain ⟨label, -, h⟩ := bind_eq_ok.mp h
    cases h

/-- The center lies one radius from the start. -/
theorem center_of_layOut {p q : P} {clockwise : Bool} {delta radius : α} {turn : Turn α}
    (h : layOut k g p q clockwise delta turn radius = .ok curve) :
    ∃ bearing, g.leadTo q radius bearing = .ok curve.center := by
  obtain ⟨tangent, -, h⟩ := bind_eq_ok.mp h
  obtain ⟨toCenter, -, h⟩ := bind_eq_ok.mp h
  obtain ⟨center, hcenter, h⟩ := bind_eq_ok.mp h
  obtain ⟨radial, -, h⟩ := bind_eq_ok.mp h
  obtain ⟨finish, -, h⟩ := bind_eq_ok.mp h
  cases h
  exact ⟨_, hcenter⟩

end LayingOut

/-! ## Where the radius is looked at -/

variable {c : CurveCall}

theorem arcDelta_eq {distance radius : Value} {r : Float} (hr : radius.toFloat = .ok r) :
    arcDelta .double distance radius =
      if r ≤ 0 then .error (.curveRadius (Number.real r).text)
      else distance.toFloat >>= fun length => centralAngle length r := by
  have hread : Reckoning.double.read radius = .ok r := hr
  rw [arcDelta, hread]
  by_cases hle : r ≤ 0
  · rw [if_pos hle]
    exact if_pos (decide_eq_true hle)
  · rw [if_neg hle]
    exact if_neg (mt of_decide_eq_true hle)

/-- A central angle that is left open does not follow from a radius that is at most zero. -/
theorem not_le_of_deltaOf {delta r : Float} (hopen : isOpen ["?"] c.delta = true)
    (hr : c.radius.toFloat = .ok r) (h : deltaOf .double c = .ok delta) : ¬r ≤ 0 := by
  intro hle
  rw [deltaOf, if_pos hopen, arcDelta_eq hr, if_pos hle] at h
  cases h

/-- An error that is not over the radius of a curve. -/
def SparesRadius (err : Error) : Prop := ∀ shown, err ≠ .curveRadius shown

theorem sparesRadius_of_ofReckoning {err : Error} (h : err.OfReckoning) : SparesRadius err := by
  rintro shown rfl
  exact h

/-- Over a stated central angle no radius is refused. -/
theorem deltaOf_of_stated (hstated : isOpen ["?"] c.delta = false) :
    FailsIn SparesRadius (deltaOf .double c) := by
  rw [deltaOf, if_neg (by rw [hstated]; exact Bool.false_ne_true)]
  refine FailsIn.mono ?_ fun _ => sparesRadius_of_ofReckoning
  split
  · exact reckons_angleOfValue _
  · exact Number.reckons_toFloat _
  · exact reckons_angleOfValue _

/-- **A curve has a positive radius, unless its central angle is stated.** However lengths are
measured and great circles are followed: where the angle is left open, a radius that is at most zero
is an error; where it is stated no radius is refused for its sign. What is not finite is refused by
great circles that are reckoned with doubles, on every sphere; and the known units are measured as
it takes. -/
theorem positive_or_stated (g : Globe Float P) {metres : Value → Except Error Float}
    (hm : MeasuresNumbers metres) (usual : Value) (c : CurveCall) :
    (∀ previous start curve, resolve .double g metres usual previous start c = .ok curve →
      ∃ r, c.radius.toFloat = .ok r ∧ (isOpen ["?"] c.delta = true → ¬r ≤ 0) ∧
        (g.Bounded → r.isFinite = true ∧ (isOpen ["?"] c.delta = true → 0 < r))) ∧
    (∀ previous start clockwise r, directionOfValue c.direction = .ok clockwise →
      isOpen ["?"] c.delta = true → c.radius.toFloat = .ok r → r ≤ 0 →
        resolve .double g metres usual (some previous) (some start) c =
          .error (.curveRadius (Number.real r).text)) ∧
    (isOpen ["?"] c.delta = false → ∀ shown, deltaOf .double c ≠ .error (.curveRadius shown)) ∧
    (∀ radius, (SphereLibrary.known.globe radius).Bounded) ∧
    ∀ unit, MeasuresNumbers (UnitLibrary.known.metresOfValue unit) := by
  refine ⟨?_, ?_, fun hstated shown h => deltaOf_of_stated hstated _ h shown rfl,
    SphereLibrary.bounded_known, UnitLibrary.measuresNumbers_known⟩
  · intro previous start curve h
    obtain ⟨p, q, clockwise, delta, turn, length, -, -, -, hdelta, -, hlength, hlaid⟩ :=
      resolve_eq_ok h
    obtain ⟨bearing, hcenter⟩ := center_of_layOut hlaid
    obtain ⟨r, hr, hfinite⟩ := hm _ _ hlength
    have hpositive (hopen : isOpen ["?"] c.delta = true) : ¬r ≤ 0 :=
      not_le_of_deltaOf hopen hr hdelta
    refine ⟨r, hr, hpositive, fun hg => ?_⟩
    have hfinite := hfinite (hg _ _ _ _ hcenter)
    obtain ⟨hzero, -⟩ := worth_ofNat (n := 0) (by decide)
    refine ⟨hfinite, fun hopen => (lt_iff hzero hfinite).mpr ?_⟩
    exact not_le.mp (mt (le_iff hfinite hzero).mpr (hpositive hopen))
  · intro previous start clockwise r hdirection hopen hr hle
    have hdelta : deltaOf .double c = .error (.curveRadius (Number.real r).text) := by
      rw [deltaOf, if_pos hopen, arcDelta_eq hr, if_pos hle]
    rw [resolve, hdirection]
    change deltaOf .double c >>= _ = _
    rw [hdelta]
    rfl

end Curve

/-! ## Half circles along a meridian -/

/-- The great circles along one meridian, where a point is its latitude and a meter is a degree. -/
def Globe.meridian : Globe Float Float where
  toward p q := .ok (if p < q then 0.0 else 180.0)
  leadTo p distance bearing :=
    if distance.isFinite && (bearing == 0.0 || bearing == 180.0) then
      .ok (if bearing == 0.0 then p + distance else p - distance)
    else .error (.notFinite "nan" "nan")

theorem Globe.bounded_meridian : Globe.meridian.Bounded := by
  intro p distance bearing q h
  dsimp only [meridian] at h
  split at h
  · next hfinite => exact (Bool.and_eq_true_iff.mp hfinite).1
  · cases h

theorem UnitLibrary.metresOfValue_meter :
    known.metresOfValue (.text "meter") = fun v => (· * 1.0) <$> v.toFloat := by
  funext v
  rw [metresOfValue]
  cases v.toFloat with
  | error err => rfl
  | ok x => exact metres_meter_eq x

namespace Curve

/-- A half circle around a center straight behind its start, with its central angle left open or
stated. -/
def halfCircle (radius : Float) (delta : Value) : CurveCall where
  distance := .number (.real 15.707963267948966)
  direction := .text "TRUE"
  radius := .number (.real radius)
  delta := delta
  turn := .number (.whole 180)
  memo := .text "1"

theorem positive_or_stated_halfCircle :
    MeasuresNumbers (UnitLibrary.known.metresOfValue (.text "meter")) ∧
    ∃ curve r, resolve .double .meridian (UnitLibrary.known.metresOfValue (.text "meter")) .nothing
        (some 0.0) (some 10.0) (halfCircle 5.0 .nothing) = .ok curve ∧
      (halfCircle 5.0 .nothing).radius.toFloat = .ok r ∧ r.isFinite = true ∧ 0 < r := by
  have hm := UnitLibrary.measuresNumbers_known (.text "meter")
  obtain ⟨curve, hcurve⟩ : ∃ curve, resolve .double .meridian
      (UnitLibrary.known.metresOfValue (.text "meter")) .nothing (some 0.0) (some 10.0)
      (halfCircle 5.0 .nothing) = .ok curve := by
    rw [UnitLibrary.metresOfValue_meter]
    exact exists_eq_ok (by decide +kernel)
  obtain ⟨hpositive, -, -⟩ := positive_or_stated Globe.meridian hm .nothing
    (halfCircle 5.0 .nothing)
  obtain ⟨r, hr, -, hbounded⟩ := hpositive _ _ _ hcurve
  obtain ⟨hfinite, hpos⟩ := hbounded Globe.bounded_meridian
  exact ⟨hm, curve, r, hcurve, hr, hfinite, hpos rfl⟩

/-- A half circle of stated angle is laid out backwards where its radius is below zero. -/
theorem not_positive_backwards :
    ¬∀ (g : Globe Float Float) (unit usual : Value) (previous start : Option Float)
      (c : CurveCall) (curve : Curve Float Float), g.Bounded →
        resolve .double g (UnitLibrary.known.metresOfValue unit) usual previous start c =
            .ok curve →
          ∃ r, c.radius.toFloat = .ok r ∧ 0 < r := by
  intro h
  obtain ⟨curve, hcurve⟩ : ∃ curve, resolve .double .meridian
      (UnitLibrary.known.metresOfValue (.text "meter")) .nothing (some 0.0) (some 10.0)
      (halfCircle (-5.0) (.number (.whole 180))) = .ok curve := by
    rw [UnitLibrary.metresOfValue_meter]
    exact exists_eq_ok (by decide +kernel)
  obtain ⟨r, hr, hpos⟩ := h _ _ _ _ _ _ _ Globe.bounded_meridian hcurve
  cases hr
  exact absurd hpos (by decide +kernel)

end Curve

end MetesBounds
