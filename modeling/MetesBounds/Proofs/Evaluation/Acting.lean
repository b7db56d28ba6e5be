import MetesBounds.Evaluation
import MetesBounds.Proofs.Registry.Standard

/-!
# `Evaluation/Acting` — what a call can fail with once its references are replaced

Beside the calculation itself, a line or curve call may lack the points that it goes on from, and a
procedure call may name nothing or have arguments that do not fit. None of these is an unresolved
name: names are resolved before a call acts.

Main statement: `Evaluator.act_eq_error`.
-/

set_option autoImplicit false

namespace MetesBounds

/-- What a call fails with that acts with the standard procedures. -/
def Family.ofActing : Family → Bool
  | missingContext => true
  | f => f.ofCalling

theorem Family.ofActing_of_ofCalling {f : Family} (h : f.ofCalling = true) : f.ofActing = true := by
  unfold ofActing
  split
  · rfl
  · exact h

theorem ofActing_of_calculates {α : Type} {x : Except Error α} (hx : Calculates x) {err : Error}
    (h : x = .error err) : err.family.ofActing = true :=
  Family.ofActing_of_ofCalling (Registry.ofCalling_of_calculates hx h)

/-- What acts does not leave a name unresolved. -/
theorem ne_unresolved_of_ofActing {err : Error} (h : err.family.ofActing = true) (n : String) :
    err ≠ .unresolved n := by
  rintro rfl
  cases h

section Foreign

variable {i : Instruments} (hi : i.Foreign)

include hi

/-- Whatever radius and unit are refused with, it is an error of calculation. -/
theorem Error.Arises.ofCalculation {radius unit : Value} {err : Error}
    (h : err.Arises i radius unit) : err.family.ofCalculation = true := by
  cases h with
  | reckoning h => exact h.ofCalculation
  | curve shown => rfl
  | sphere h => exact hi.calculates_ofRadius radius err h
  | unit h => exact hi.units.calculates_metres _ unit err h

theorem FailsIn.calculates_of_arises {α : Type} {radius unit : Value} {x : Except Error α}
    (h : FailsIn (Error.Arises i radius unit) x) : Calculates x :=
  h.mono fun _ => Error.Arises.ofCalculation hi

/-- Where both points before it are known, a curve is only calculated. -/
theorem Curve.calculates_endOnSphere (radius unit usual : Value) (previous start : Point)
    (c : CurveCall) :
    Calculates (endOnSphere i radius unit usual (some previous) (some start) c) :=
  (arises_endOnSphere usual previous start c).calculates_of_arises hi

end Foreign

theorem Call.calculates_labelWith (k : Kind) (memo : Value) : Calculates (labelWith k memo) :=
  (reckons_labelWith k memo).calculates

/-- Where one of them is missing, the curve says so as soon as it has its label. -/
theorem Curve.endOnSphere_of_missing {i : Instruments} {radius unit usual : Value}
    {previous start : Option Point} {c : CurveCall} (h : previous = none ∨ start = none) :
    endOnSphere i radius unit usual previous start c =
      Call.labelWith .curve c.memo >>= fun label => .error (.noTangent label) := by
  rcases h with rfl | rfl
  · cases hl : Call.labelWith .curve c.memo <;>
      simp only [endOnSphere, onSphere, resolve, hl] <;> rfl
  · cases previous <;> cases hl : Call.labelWith .curve c.memo <;>
      simp only [endOnSphere, onSphere, resolve, hl] <;> rfl

theorem Curve.endOnSphere_eq_error {i : Instruments} (hi : i.Foreign) {radius unit usual : Value}
    {previous start : Option Point} {c : CurveCall} {err : Error}
    (h : endOnSphere i radius unit usual previous start c = .error err) :
    err.family.ofActing = true := by
  by_cases hp : previous = none ∨ start = none
  · rw [endOnSphere_of_missing hp] at h
    rcases bind_eq_error.mp h with h | ⟨label, -, h⟩
    · exact ofActing_of_calculates (Call.calculates_labelWith _ _) h
    · cases h
      rfl
  · obtain ⟨hprevious, hstart⟩ := not_or.mp hp
    obtain ⟨p, rfl⟩ := Option.ne_none_iff_exists'.mp hprevious
    obtain ⟨q, rfl⟩ := Option.ne_none_iff_exists'.mp hstart
    exact ofActing_of_calculates (calculates_endOnSphere hi radius unit usual p q c) h

namespace Evaluator

variable {e : Evaluator} {t : Traverse} {err : Error}

theorem reckons_pointOf (c : PointCall) : FailsIn Error.OfReckoning (pointOf c) :=
  c.latitude.reckons_toFloat.bind fun _ => c.longitude.reckons_toFloat.bind fun _ =>
    Point.reckons_checked _ _

theorem reckons_bearingOf (c : LineCall) : FailsIn Error.OfReckoning (bearingOf c) :=
  (reckons_directionOfValue _).bind fun _ =>
    .ite (reckons_bearingOfValue _) (reckons_oppositeOfValue _)

/-- Where a line starts somewhere, its end is only calculated. -/
theorem arises_lineEnd {origin : Point} (h : t.current = some origin) (c : LineCall) :
    FailsIn (Error.Arises e.toInstruments e.radius e.settings.distanceUnit) (e.lineEnd t c) := by
  rw [lineEnd, h]
  exact (reckons_bearingOf c).arises.bind fun _ => (arises_metresOfValue _).bind fun _ =>
    SphereLibrary.arises_destination _ _ _

theorem lineEnd_eq_error (hi : e.toInstruments.Foreign) {c : LineCall}
    (h : e.lineEnd t c = .error err) : err.family.ofActing = true := by
  cases hc : t.current with
  | some origin => exact ofActing_of_calculates ((arises_lineEnd hc c).calculates_of_arises hi) h
  | none =>
    rw [lineEnd, hc] at h
    rcases bind_eq_error.mp h with h | ⟨label, -, h⟩
    · exact ofActing_of_calculates (Call.calculates_labelWith _ _) h
    · cases h
      rfl

theorem of_map_eq_error {α β : Type} {f : α → β} {x : Except Error α}
    (h : f <$> x = .error err) : x = .error err := by
  cases x with
  | error err' => cases h; rfl
  | ok a => cases h

/-- **Acting never leaves a name unresolved**: it fails over what a call lacks or over what it
calculates with, where the libraries are none of a traverse. -/
theorem act_eq_error (hi : e.toInstruments.Foreign) (hr : e.procedures = .standard e.units)
    {c : Call} (h : (e.act t c).result = .error err) : err.family.ofActing = true := by
  cases c with
  | point c => exact ofActing_of_calculates (reckons_pointOf c).calculates (of_map_eq_error h)
  | line c => exact lineEnd_eq_error hi (of_map_eq_error h)
  | curve c =>
    simp only [act] at h
    split at h
    · cases h
    · next err' hc => cases h; exact Curve.endOnSphere_eq_error hi hc
  | procedure c =>
    rw [act, hr] at h
    exact Family.ofActing_of_ofCalling (Registry.standard_call_eq_error hi.units h)
  | binding c =>
    simp only [act, bindLast] at h
    split at h
    · cases h
    · next err' hs =>
      cases h
      unfold Symbol.ofValue at hs
      split at hs
      · cases hs
      · split at hs <;> cases hs
        rfl

end Evaluator

end MetesBounds
