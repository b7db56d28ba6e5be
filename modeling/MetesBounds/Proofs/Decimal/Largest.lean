import Mathlib
import MetesBounds.Proofs.Decimal.Plain
import MetesBounds.Proofs.Calculation.Operations

/-!
# `Decimal/Largest` — decimals that are too large for a double

A plain decimal is rounded to a double once, from its digits, and is infinite as a double just where
what it says is at least a half of the last place beyond the largest one. Neither the short cut for
few digits nor the one for many places changes that.

Main statement: `Decimal.Plain.isFinite_value_iff`.
-/

set_option autoImplicit false

namespace MetesBounds

namespace Binary64

open Float.Model Float.Model.UnpackedFloat

variable {x : Float} {m n k : ℕ} {q r : ℤ}

theorem isFinite_neg (x : Float) : (-x).isFinite = x.isFinite := by
  have hneg (u : UnpackedFloat) : u.neg.isFinite = u.isFinite := by cases u <;> rfl
  rw [Bool.eq_iff_iff]
  refine ⟨fun h => ?_, fun h => (worth_neg h).1⟩
  have hcanonical : Canonical x.toModel.unpack.neg := by
    have h := canonical_unpack x
    generalize x.toModel.unpack = u at h
    cases u <;> exact h
  have hfinite := (upTo_of_isFinite_pack hcanonical h).isFinite
  rwa [hneg] at hfinite

/-- A whole number divided by a power of ten. -/
theorem isFinite_ofScientific (hk : 0 < k) (m : ℕ) :
    (Float.ofModel (Float.Model.ofScientific m (Int.negOfNat k))).isFinite = true ↔
      (m / 10 ^ k : ℚ) < beyond := by
  have hneg : Int.negOfNat k = -(k : ℤ) := Int.negOfNat_eq
  have hpos : (0 : ℚ) < 10 ^ k := by positivity
  change (pack (UnpackedFloat.ofScientific Format.binary64 m (Int.negOfNat k))).unpack.isFinite =
    true ↔ _
  unfold UnpackedFloat.ofScientific
  split_ifs with hm hlarge hsmall hnonneg
  · rw [hm, Nat.cast_zero, zero_div]
    exact iff_of_true (by decide +kernel) beyond_pos
  · have hfield : (2 : ℤ) ^ Format.binary64.exponentBits = 2048 := rfl
    rw [hfield] at hlarge
    omega
  · -- so many places behind the point that the quotient is less than one
    have hfield : (2 : ℤ) ^ Format.binary64.exponentBits = 2048 := rfl
    rw [hfield] at hsmall
    have hlt : m < 10 ^ k := calc
      m < 2 ^ (m.log2 + 1) := Nat.lt_log2_self
      _ ≤ 10 ^ (m.log2 + 1) := Nat.pow_le_pow_left (by decide) _
      _ ≤ 10 ^ k := Nat.pow_le_pow_right (by decide) (by omega)
    have hone : (m / 10 ^ k : ℚ) < 1 := (div_lt_one hpos).mpr (by exact_mod_cast hlt)
    exact iff_of_true (by decide +kernel) (hone.trans one_lt_beyond)
  · omega
  · have hnat : (-Int.negOfNat k).toNat = k := by omega
    have hten : (0 : ℕ) < 10 ^ k := Nat.pow_pos (by decide)
    have hamount (n : ℕ) (hn : 0 < n) : amount (.finite .positive n 0 hn) = n := by
      rw [amount_positive, zpow_zero, mul_one]
    have hrounds := rounds_div (u := .finite .positive m 0 (Nat.pos_of_ne_zero hm))
      (v := .finite .positive (10 ^ k) 0 hten) rfl rfl (by rw [hamount]; positivity)
    rw [hamount, hamount, Nat.cast_pow, Nat.cast_ofNat] at hrounds
    have hrounded := (rounded_pack hrounds).isFinite_iff
    rw [abs_of_nonneg (by positivity)] at hrounded
    rw [← hrounded]
    simp only [hnat]
    rfl

/-- A decimal with places behind the point, by either way of working it out. -/
theorem isFinite_ofScientific_true (hk : 0 < k) (m : ℕ) :
    (Float.ofScientific m true k).isFinite = true ↔ (m / 10 ^ k : ℚ) < beyond := by
  rw [Float.ofScientific]
  split
  · next hfits =>
    obtain ⟨hfinite, hworth⟩ := worth_toFloat hfits.1
    obtain ⟨hten, hten'⟩ := worth_powerOfTen (k := k) (by omega)
    have hdiv := (rounded_div hfinite hten (by rw [hten']; positivity)).isFinite_iff
    rw [hworth, hten', abs_of_nonneg (by positivity)] at hdiv
    exact hdiv
  · exact isFinite_ofScientific hk m

theorem beyond_le : beyond ≤ 10 ^ 400 := calc
  beyond ≤ 2 ^ 1024 := sub_le_self _ (by positivity)
  _ ≤ 2 ^ (3 * 400) := pow_le_pow_right₀ one_le_two (by decide)
  _ = (2 ^ 3) ^ 400 := pow_mul 2 3 400
  _ ≤ 10 ^ 400 := pow_le_pow_left₀ (by norm_num) (by norm_num) 400

/-- **A decimal is finite as a double where it is not too large.** -/
theorem isFinite_nearest (m k : ℕ) :
    (Decimal.nearest m (-k)).isFinite = true ↔ (m / 10 ^ k : ℚ) < beyond := by
  have hpos : (0 : ℚ) < 10 ^ k := by positivity
  have hlength (j : ℕ) (hj : 0 < j) : (Nat.toDigits 10 m).length ≤ j ↔ m < 10 ^ j :=
    Nat.length_toDigits_le_iff (by decide) hj
  unfold Decimal.nearest
  dsimp only
  split_ifs with hm hlead hlead'
  · rw [hm, Nat.cast_zero, zero_div]
    exact iff_of_true (by decide +kernel) beyond_pos
  · refine iff_of_false (by decide +kernel) (not_lt.mpr ?_)
    have hle : 10 ^ (400 + k) ≤ m := not_lt.mp (mt (hlength (400 + k) (by omega)).mpr (by omega))
    refine beyond_le.trans ?_
    rw [le_div_iff₀ hpos, ← pow_add]
    exact_mod_cast hle
  · have hpos' := Nat.length_toDigits_pos (b := 10) (n := m)
    have hlt : m < 10 ^ k := calc
      m < 10 ^ (k - 400) := (hlength (k - 400) (by omega)).mp (by omega)
      _ ≤ 10 ^ k := Nat.pow_le_pow_right (by decide) (Nat.sub_le k 400)
    have hone : (m / 10 ^ k : ℚ) < 1 := (div_lt_one hpos).mpr (by exact_mod_cast hlt)
    exact iff_of_true (by decide +kernel) (hone.trans one_lt_beyond)
  · rw [Int.natAbs_neg, Int.natAbs_natCast]
    rcases Nat.eq_zero_or_pos k with rfl | hk
    · have hnat := (rounded_ofNat m).isFinite_iff
      rw [Nat.abs_cast] at hnat
      rw [pow_zero, div_one, ← hnat]
      rfl
    · rw [decide_eq_true (by omega)]
      exact isFinite_ofScientific_true hk m

end Binary64

namespace Decimal.Plain

/-- What a decimal says, but for its sign. -/
def size (p : Plain) : ℚ :=
  Text.digitsValue (p.whole ++ p.fraction.getD []) / 10 ^ (p.fraction.getD []).length

/-- **A plain decimal is finite as a double where it is not too large.** -/
theorem isFinite_value_iff (p : Plain) : p.value.isFinite = true ↔ p.size < Binary64.beyond := by
  rw [value, size, ← Binary64.isFinite_nearest]
  split_ifs
  · rw [Binary64.isFinite_neg]
  · rfl

end Decimal.Plain

end MetesBounds
