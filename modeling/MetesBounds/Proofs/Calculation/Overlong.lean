import Mathlib
import MetesBounds.Curve
import MetesBounds.Point.Checked
import MetesBounds.Proofs.Calculation
import MetesBounds.Proofs.Calculation.Operations
import MetesBounds.Proofs.Decimal.Largest
import MetesBounds.Traverse

/-!
# `Calculation/Overlong` — what can be reckoned with can be written

A whole number has too many digits to be written from a power of ten on that is far beyond the
largest double. So what is read as a double, as a bearing or as a direction can be written, and the
coordinates of a point can. Replacing references does not make anything shorter.

Main statements: `Number.isOverlong_whole`, `Point.short_of_checked` and
`Traverse.isOverlong_of_resolveField`.
-/

set_option autoImplicit false

namespace MetesBounds

/-! ## Numbers -/

namespace Number

/-- A whole number is too long from a power of ten on. -/
theorem isOverlong_whole (n : Int) :
    (whole n).isOverlong = true ↔ 10 ^ mostDigits ≤ n.natAbs := by
  have hlength := Nat.length_toDigits_le_iff (b := 10) (n := n.natAbs) (k := mostDigits)
    (by decide) (by decide)
  rw [isOverlong, decide_eq_true_eq, ← not_le, hlength, not_lt]

/-- The least whole number that is too long. -/
theorem isOverlong_ten_pow : (whole (10 ^ 4300)).isOverlong = true := by
  have hbase : Int.natAbs 10 = 10 := rfl
  rw [isOverlong_whole, Int.natAbs_pow, hbase, mostDigits]

theorem isOverlong_of_natAbs_lt {n : Int} {b : Nat} (hb : b ≤ mostDigits)
    (h : n.natAbs < 2 ^ b) : (whole n).isOverlong = false := by
  rw [Bool.eq_false_iff, ne_eq, isOverlong_whole, not_le]
  calc n.natAbs < 2 ^ b := h
    _ ≤ 10 ^ b := Nat.pow_le_pow_left (by decide) b
    _ ≤ 10 ^ mostDigits := Nat.pow_le_pow_right (by decide) hb

/-- A whole number that fits into a double is far below twice the largest. -/
theorem natAbs_lt_of_ofInt? {n : Int} {x : Float} (h : Binary64.ofInt? n = some x) :
    n.natAbs < 2 ^ 1024 := by
  have hlt {m : Nat} (hm : (Float.ofNat m).isFinite = true) : m < 2 ^ 1024 :=
    (Binary64.isFinite_ofNat_iff.mp hm).trans_le (Nat.sub_le _ _)
  rw [Binary64.ofInt?] at h
  split at h
  · next hfinite =>
    cases n with
    | ofNat m => exact hlt hfinite
    | negSucc m =>
      refine hlt (m := m + 1) ?_
      rw [← Binary64.isFinite_neg]
      exact hfinite
  · cases h

/-- **A number that fits into a double can be written.** -/
theorem isOverlong_of_toFloat {n : Number} {x : Float} (h : n.toFloat = .ok x) :
    n.isOverlong = false := by
  cases n with
  | whole n =>
    refine isOverlong_of_natAbs_lt (b := 1024) (by decide) (natAbs_lt_of_ofInt? (x := x) ?_)
    rw [toFloat, toFloat?] at h
    split at h
    · next y hy => cases h; exact hy
    · cases h
  | _ => rfl

end Number

/-- **The coordinates of a point can be written.** -/
theorem Point.short_of_checked {latitude longitude : Number} {p : Point}
    (h : checked latitude longitude = .ok p) :
    p.latitude.isOverlong = false ∧ p.longitude.isOverlong = false := by
  have hshort {n : Number} (hn : n.fitsCoordinate = true) : n.isOverlong = false := by
    cases n with
    | whole n =>
      rw [Number.fitsCoordinate, Bool.and_eq_true, decide_eq_true_eq, decide_eq_true_eq] at hn
      exact Number.isOverlong_of_natAbs_lt (b := 64) (by decide) (by omega)
    | _ => rfl
  unfold checked at h
  split at h
  · cases h
  next hlatitude =>
  split at h
  · cases h
  split at h
  · cases h
  next hlongitude =>
  split at h
  · cases h
  split at h
  · cases h
    exact ⟨hshort (by simpa using hlatitude), hshort (by simpa using hlongitude)⟩
  · cases h

/-! ## Bearings and directions -/

namespace Value

theorem isOverlong_of_plainText {v : Value} {s : String} (h : v.plainText = .ok s) :
    v.isOverlong = false := by
  rw [plainText] at h
  split at h
  · cases h
  · next hlong => exact Bool.eq_false_iff.mpr hlong

theorem isOverlong_of_bearing {v : Value} {x : Float} (h : bearingOfValue .double v = .ok x) :
    v.isOverlong = false := by
  unfold bearingOfValue at h
  split at h
  · cases h
  · obtain ⟨y, hy, -⟩ := bind_eq_ok.mp h
    exact Number.isOverlong_of_toFloat hy
  · obtain ⟨s, hs, -⟩ := bind_eq_ok.mp h
    exact isOverlong_of_plainText hs

theorem isOverlong_of_direction {v : Value} {b : Bool} (h : directionOfValue v = .ok b) :
    v.isOverlong = false := by
  obtain ⟨s, hs, -⟩ := bind_eq_ok.mp h
  exact isOverlong_of_plainText hs

end Value

/-! ## References -/

namespace Traverse

variable {t : Traverse} {v w : Value}

/-- What stands for something that can be written can be written: a reference always can. -/
theorem isOverlong_of_resolve (h : t.resolve v = .ok w) (hw : w.isOverlong = false) :
    v.isOverlong = false := by
  cases v with
  | text | reference | point | nothing => rfl
  | _ =>
    cases h
    exact hw

theorem isOverlongAmong_of_resolve {vs ws : List Value}
    (h : List.Forall₂ (fun v w => t.resolve v = .ok w) vs ws)
    (hws : Value.isOverlongAmong ws = false) : Value.isOverlongAmong vs = false := by
  induction h with
  | nil => rfl
  | cons hv _ ih =>
    rw [Value.isOverlongAmong, Bool.or_eq_false_iff] at hws ⊢
    exact ⟨isOverlong_of_resolve hv hws.1, ih hws.2⟩

/-- **What a field stands for can only be written if the field can.** -/
theorem isOverlong_of_resolveField {f : Field} (h : t.resolveField f v = .ok w)
    (hw : w.isOverlong = false) : v.isOverlong = false := by
  have hplain (v : Value) (h : (if f = .memo then .ok v else t.resolve v) = .ok w) :
      v.isOverlong = false := by
    split at h
    · cases h
      exact hw
    · exact isOverlong_of_resolve h hw
  cases v with
  | row items =>
    obtain ⟨ws, hws, h⟩ := bind_eq_ok.mp h
    cases h
    exact isOverlongAmong_of_resolve (forall₂_of_mapM hws) hw
  | _ => exact hplain _ h

end Traverse

end MetesBounds
