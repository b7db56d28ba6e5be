import MetesBounds.Measure.Scalar
import MetesBounds.Point.Checked
import MetesBounds.Proofs.Calculation
import MetesBounds.Reckoning

/-!
# `Calculation/Numbers` — reckoning with numbers only calculates

Numbers of every kind and points made of them: whatever goes wrong is a fault of the numbers. The
names are those of the operations. What reading a number or a point fails with is listed
(`Error.OfReckoning`); the operations that units alone need add divisions by zero and the like.
-/

set_option autoImplicit false

namespace MetesBounds

open Error (OfReckoning)

theorem reckons_doubleOfInt (n : Int) : FailsIn OfReckoning (doubleOfInt n) := by
  rw [doubleOfInt]
  split
  · exact .ok _
  · exact .error trivial

namespace Number

theorem reckons_toFloat (n : Number) : FailsIn OfReckoning n.toFloat := by
  rw [toFloat]
  split
  · exact .ok _
  · exact .error trivial

theorem calculates_toFloat (n : Number) : Calculates n.toFloat := n.reckons_toFloat.calculates

/-- Two numbers turned to doubles before something is done with them. -/
theorem calculates_toFloats {α : Type} (a b : Number) {f : Float → Float → Except Error α}
    (hf : ∀ x y, Calculates (f x y)) :
    Calculates (do let x ← a.toFloat; let y ← b.toFloat; f x y) :=
  a.calculates_toFloat.bind fun x => b.calculates_toFloat.bind fun y => hf x y

theorem calculates_combine (onWhole : Int → Int → Int) (onDoubles : Float → Float → Float)
    (a b : Number) : Calculates (combine onWhole onDoubles a b) := by
  rw [combine]
  split
  · exact .ok _
  · exact calculates_toFloats a b fun _ _ => .ok _

theorem calculates_quotient (a b : Number) : Calculates (a.quotient b) := by
  rw [quotient]
  split
  · exact .ite (.error rfl) (.ite (.ok _) (.error rfl))
  · exact calculates_toFloats a b fun _ _ => .ite (.error rfl) (.ok _)

theorem calculates_floorQuotient (a b : Number) : Calculates (a.floorQuotient b) := by
  rw [floorQuotient]
  split
  · exact .ite (.error rfl) (.ok _)
  · exact calculates_toFloats a b fun _ _ => .ite (.error rfl) (.ok _)

theorem calculates_remainder (a b : Number) : Calculates (a.remainder b) := by
  rw [remainder]
  split
  · exact .ite (.error rfl) (.ok _)
  · exact calculates_toFloats a b fun _ _ => .ite (.error rfl) (.ok _)

theorem calculates_power (a b : Number) : Calculates (a.power b) := by
  rw [power]
  split
  · exact .ok _
  · exact calculates_toFloats a b fun _ _ =>
      .ite (.error rfl) (.ite (.ok _) (.ite (.ok _) (.ite (.error rfl) (.ok _))))

end Number

theorem Complex.calculates_power (a b : Complex) : Calculates (a.power b) := by
  rw [power]
  split
  · exact .error rfl
  · exact .ite (.error rfl) (.ok _)

namespace Scalar

theorem calculates_toComplex : ∀ a : Scalar, Calculates a.toComplex
  | real n => n.calculates_toFloat.map
  | complex _ => .ok _

theorem calculates_lift {onReal : Number → Number → Except Error Number}
    {onComplex : Complex → Complex → Except Error Complex}
    (hr : ∀ a b, Calculates (onReal a b)) (hc : ∀ a b, Calculates (onComplex a b)) (a b : Scalar) :
    Calculates (lift onReal onComplex a b) := by
  unfold lift
  split
  · exact (hr _ _).map
  · exact (calculates_toComplex _).bind fun _ =>
      (calculates_toComplex _).bind fun _ => (hc _ _).map

theorem calculates_liftReal {op : Number → Number → Except Error Number}
    (hop : ∀ a b, Calculates (op a b)) (sign : String) (a b : Scalar) :
    Calculates (liftReal sign op a b) := by
  unfold liftReal
  split
  · exact (hop _ _).map
  · exact .error rfl

theorem calculates_sum (a b : Scalar) : Calculates (a.sum b) :=
  calculates_lift (Number.calculates_combine _ _) (fun _ _ => .ok _) a b

theorem calculates_difference (a b : Scalar) : Calculates (a.difference b) :=
  calculates_lift (Number.calculates_combine _ _) (fun _ _ => .ok _) a b

theorem calculates_product (a b : Scalar) : Calculates (a.product b) :=
  calculates_lift (Number.calculates_combine _ _) (fun _ _ => .ok _) a b

theorem calculates_quotient (a b : Scalar) : Calculates (a.quotient b) := by
  refine calculates_lift Number.calculates_quotient (fun a b => ?_) a b
  split
  · exact .ok _
  · exact .error rfl

theorem calculates_floorQuotient (a b : Scalar) : Calculates (a.floorQuotient b) :=
  calculates_liftReal Number.calculates_floorQuotient _ a b

theorem calculates_remainder (a b : Scalar) : Calculates (a.remainder b) :=
  calculates_liftReal Number.calculates_remainder _ a b

theorem calculates_power (a b : Scalar) : Calculates (a.power b) := by
  have complex (a b : Scalar) : Calculates
      (do return complex (← (← a.toComplex).power (← b.toComplex)) : Except Error Scalar) :=
    a.calculates_toComplex.bind fun _ => b.calculates_toComplex.bind fun _ =>
      (Complex.calculates_power _ _).map
  unfold power
  split
  · refine (Number.calculates_power _ _).bind fun p => ?_
    split
    · exact .ok _
    · exact complex _ _
  · exact complex _ _

end Scalar

/-! ## Values as doubles -/

namespace Value

theorem reckons_toFloat (v : Value) : FailsIn OfReckoning v.toFloat := by
  unfold toFloat Reckoning.read
  split
  · exact Number.reckons_toFloat _
  · split
    · exact .ok _
    · exact .error trivial
  · exact .error trivial

theorem reckons_wrapped (v : Value) : FailsIn OfReckoning v.wrapped := v.reckons_toFloat.map

end Value

/-! ## Points -/

namespace Point

theorem ofReckoning_notFinite (latitude longitude : Value) :
    (notFinite latitude longitude).OfReckoning := by
  unfold notFinite
  split
  · trivial
  · exact Value.blamedPlain_of trivial (fun _ => trivial) _

theorem reckons_checked (latitude longitude : Number) :
    FailsIn OfReckoning (checked latitude longitude) :=
  .ite (.error trivial) (.ite (.error (ofReckoning_notFinite _ _)) (.ite (.error trivial)
    (.ite (.error (ofReckoning_notFinite _ _)) (.ite (.ok _) (.error trivial)))))

theorem reckons_reckonedLongitude (p : Point) : FailsIn OfReckoning p.reckonedLongitude := by
  rw [reckonedLongitude]
  split
  · exact Number.reckons_toFloat _
  · exact .error trivial
  · exact .error trivial

theorem reckons_checkRows (p : Point) : FailsIn OfReckoning p.checkRows :=
  .ite (.error trivial) (.ok _)

end Point

end MetesBounds
