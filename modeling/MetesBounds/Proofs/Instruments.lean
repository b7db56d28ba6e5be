import MetesBounds.Instruments
import MetesBounds.Proofs.Calculation.Numbers

/-!
# `Instruments` — what is relied on of the libraries

Whatever a library of units or of great circles answers, an evaluation goes on as it does; most of
what holds of evaluations holds with any. Two things are relied on where they are needed. The
libraries know nothing of traverses, so what they fail with is no error that only a traverse, a
call or a sheet can be the cause of: `UnitLibrary.Foreign` and `Instruments.Foreign`. And whether an
expression is a unit that can be measured in metres does not depend on the number in front of it:
`UnitLibrary.Uniform`.

Main statement: `UnitLibrary.Uniform.measures`.
-/

set_option autoImplicit false

namespace MetesBounds

/-! ## Units -/

namespace UnitLibrary

/-- Nothing that a library of units fails with is an error of a traverse, of its calls or of a
sheet. -/
structure Foreign (l : UnitLibrary) : Prop where
  unit : ∀ x v, Calculates (l.unit x v)
  dimension : ∀ u, Calculates (l.dimension u)
  inMetres : ∀ x u, Calculates (l.inMetres x u)

/-- Every number of a unit can be measured in metres. -/
def Measures (l : UnitLibrary) (unit : Value) : Prop := ∀ x, ∃ y, l.metres x unit = .ok y

/-- Whether an expression names a unit, and whether a unit can be measured in metres, does not
depend on the number that is stated in it. -/
structure Uniform (l : UnitLibrary) : Prop where
  unit : ∀ x y v u, l.unit x v = .ok u → l.unit y v = .ok u
  inMetres : ∀ x y u z, l.inMetres x u = .ok z → ∃ z', l.inMetres y u = .ok z'

variable {l : UnitLibrary} {unit : Value}

/-- **What can be measured of one number of a unit can be measured of all.** -/
theorem Uniform.measures (h : l.Uniform) {x y : Float} (hx : l.metres x unit = .ok y) :
    l.Measures unit := by
  intro x'
  obtain ⟨u, hu, hx⟩ := bind_eq_ok.mp hx
  obtain ⟨_, hdimension, hx⟩ := bind_eq_ok.mp hx
  obtain ⟨z, hz⟩ := h.inMetres _ x' _ _ hx
  exact ⟨z, by rw [metres, h.unit _ x' _ _ hu]; simp only [hdimension, hz, bind_ok]⟩

/-- A distance in a unit that can be measured fails just where its number does. -/
theorem Measures.metresOfValue_eq_error (h : l.Measures unit) {v : Value} {err : Error} :
    l.metresOfValue unit v = .error err ↔ v.toFloat = .error err := by
  rw [metresOfValue, bind_eq_error, or_iff_left]
  rintro ⟨x, -, hx⟩
  obtain ⟨y, hy⟩ := h x
  rw [hy] at hx
  cases hx

theorem Measures.reckons_metresOfValue (h : l.Measures unit) (v : Value) :
    FailsIn Error.OfReckoning (l.metresOfValue unit v) :=
  fun err herr => v.reckons_toFloat err (h.metresOfValue_eq_error.mp herr)

namespace Foreign

variable (h : l.Foreign)

include h

theorem calculates_checkDimension (u : Measure) (expected : Powers) :
    Calculates (l.checkDimension u expected) :=
  (h.dimension u).bind fun _ => .ite (.ok _) (.error rfl)

theorem calculates_metres (x : Float) (unit : Value) : Calculates (l.metres x unit) :=
  (h.unit _ _).bind fun _ => (h.calculates_checkDimension _ _).bind fun _ => h.inMetres _ _

theorem calculates_metresOfValue (unit v : Value) : Calculates (l.metresOfValue unit v) :=
  v.reckons_toFloat.calculates.bind fun _ => h.calculates_metres _ _

end Foreign

end UnitLibrary

/-! ## Great circles -/

/-- **A sphere has a radius** that is a number above zero, and then it is the library's. -/
theorem SphereLibrary.ofRadius_eq_ok {l : SphereLibrary} {radius : Value} {g : GreatCircles} :
    l.ofRadius radius = .ok g ↔
      ∃ n, radius = .number n ∧ n.atMost 0 = false ∧ l.greatCircles n = .ok g := by
  constructor
  · intro h
    unfold ofRadius at h
    split at h
    · cases h
    · split at h
      · next n _ =>
        cases hn : n.atMost 0 with
        | true => rw [hn] at h; cases h
        | false => rw [hn] at h; exact ⟨n, rfl, hn, h⟩
      · cases h
  · rintro ⟨n, rfl, hn, h⟩
    have hradius : l.ofRadius (.number n) =
        if n.atMost 0 then .error ((Value.number n).blamedPlain .sphereRadius)
        else l.greatCircles n := rfl
    rw [hradius, hn]
    exact h

/-- Nothing that the libraries fail with is an error of a traverse, of its calls or of a sheet. -/
structure Instruments.Foreign (i : Instruments) : Prop where
  units : i.units.Foreign
  greatCircles : ∀ n, Calculates (i.spheres.greatCircles n)

theorem Instruments.Foreign.calculates_ofRadius {i : Instruments} (h : i.Foreign) (radius : Value) :
    Calculates (i.spheres.ofRadius radius) := by
  unfold SphereLibrary.ofRadius
  split
  · exact .error rfl
  · split
    · exact .ite (.error (Value.blamedPlain_of (p := fun err => err.family.ofCalculation = true)
        rfl (fun _ => rfl) _)) (h.greatCircles _)
    · exact .error rfl

end MetesBounds
