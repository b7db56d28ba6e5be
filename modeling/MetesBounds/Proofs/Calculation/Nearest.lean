import Mathlib
import MetesBounds.Proofs.Calculation.Worth

/-!
# `Calculation/Nearest` — the exact result, rounded to the nearest double

A calculation with doubles is carried out exactly and then rounded. What is rounded is a mantissa
with two more bits, which tell on which side of the half the exact number lies; shifting keeps that
knowledge, so the mantissa that comes out is the whole number nearest to the exact one, the even
one where two are as near.

Main statement: `Binary64.rounds_roundWithAccuracy`.
-/

set_option autoImplicit false

namespace MetesBounds

/-- A whole number is nearest to a number: no further than a half, and even at a half. -/
def IsNearest (n : ℤ) (x : ℚ) : Prop := |n - x| ≤ 1 / 2 ∧ (|n - x| = 1 / 2 → Even n)

theorem isNearest_of_lt {n : ℤ} {x : ℚ} (h : |n - x| < 1 / 2) : IsNearest n x :=
  ⟨h.le, fun heq => absurd heq h.ne⟩

theorem IsNearest.neg {n : ℤ} {x : ℚ} (h : IsNearest n x) : IsNearest (-n) (-x) := by
  have habs : |((-n : ℤ) : ℚ) - -x| = |(n : ℚ) - x| := by
    rw [Int.cast_neg, neg_sub_neg, abs_sub_comm]
  rw [IsNearest, habs]
  exact ⟨h.1, fun hhalf => even_neg.mpr (h.2 hhalf)⟩

/-- A whole number that is closer than a half is the nearest one. -/
theorem IsNearest.eq_of_lt {n k : ℤ} {x : ℚ} (h : IsNearest n x) (hk : |x - k| < 1 / 2) :
    n = k := by
  have hlt : |((n - k : ℤ) : ℚ)| < 1 := calc
    |((n - k : ℤ) : ℚ)| = |(n - x) + (x - k)| := by rw [Int.cast_sub, sub_add_sub_cancel]
    _ ≤ |n - x| + |x - k| := abs_add_le _ _
    _ < 1 / 2 + 1 / 2 := add_lt_add_of_le_of_lt h.1 hk
    _ = 1 := by norm_num
  rw [← Int.cast_abs] at hlt
  have habs : |n - k| < 1 := by exact_mod_cast hlt
  exact sub_eq_zero.mp (Int.abs_lt_one_iff.mp habs)

theorem IsNearest.eq_of_int {n k : ℤ} {x : ℚ} (h : IsNearest n x) (hx : x = k) : n = k :=
  h.eq_of_lt (by rw [hx, sub_self, abs_zero]; norm_num)

/-- A quotient is what a division of whole numbers gives and what it leaves of the divisor. -/
theorem div_eq_add_mod_div (m : ℕ) {n : ℕ} (hn : 0 < n) :
    (m / n : ℚ) = (m / n : ℕ) + (m % n : ℕ) / n := by
  have hpos : (0 : ℚ) < n := by exact_mod_cast hn
  field_simp
  exact_mod_cast (Nat.div_add_mod m n).symm

namespace Binary64

open Float.Model Float.Model.UnpackedFloat

/-! ## A mantissa and the two bits below it -/

/-- What the bit below the last place is worth. -/
def half (b : Bool) : ℚ := if b then 1 / 2 else 0

/-- A mantissa and the two bits below it tell of a number: the first bit is the next one of the
number, and the second tells whether there is a rest. -/
def Represents (em : ExtendedMantissa) (x : ℚ) : Prop :=
  ∃ rest : ℚ, 0 ≤ rest ∧ rest < 1 / 2 ∧ (em.stickyBit = false ↔ rest = 0) ∧
    x = em.mantissa + half em.roundBit + rest

section Represents

variable {em : ExtendedMantissa} {x : ℚ}

theorem represents_exact (m : Nat) :
    Represents (ExtendedMantissa.ofMantissaAndAccuracy m .exact) m :=
  ⟨0, le_rfl, by norm_num, by simp [ExtendedMantissa.ofMantissaAndAccuracy],
    by simp [half, ExtendedMantissa.ofMantissaAndAccuracy]⟩

/-- The remainder of a division tells on which side of the half the quotient lies. -/
theorem represents_fraction {num den : Nat} (q : Nat) (h : num < den) :
    Represents (ExtendedMantissa.ofMantissaAndAccuracy q (accuracyOfFraction num den))
      (q + num / den) := by
  have hden : (0 : ℚ) < den := by exact_mod_cast Nat.zero_lt_of_lt h
  have hlt : (num / den : ℚ) < 1 := (div_lt_one hden).mpr (by exact_mod_cast h)
  unfold accuracyOfFraction
  split_ifs with hnum
  · rw [hnum, Nat.cast_zero, zero_div, add_zero]
    exact represents_exact q
  have hpos : (0 : ℚ) < num / den := div_pos (by exact_mod_cast Nat.pos_of_ne_zero hnum) hden
  rcases hcompare : compare (2 * num) den with _ | _ | _
  · have hlow : (num / den : ℚ) < 1 / 2 := by
      rw [div_lt_div_iff₀ hden two_pos]
      exact_mod_cast (by have := Nat.compare_eq_lt.mp hcompare; omega)
    refine ⟨num / den, hpos.le, hlow, ?_, ?_⟩
    · simp [ExtendedMantissa.ofMantissaAndAccuracy, hpos.ne']
    · simp [ExtendedMantissa.ofMantissaAndAccuracy, half]
  · have hmid : (num / den : ℚ) = 1 / 2 := by
      rw [div_eq_div_iff hden.ne' two_ne_zero]
      exact_mod_cast (by have := Nat.compare_eq_eq.mp hcompare; omega)
    refine ⟨0, le_rfl, by norm_num, ?_, ?_⟩
    · simp [ExtendedMantissa.ofMantissaAndAccuracy]
    · simp [ExtendedMantissa.ofMantissaAndAccuracy, half, hmid]
  · have hhigh : (1 / 2 : ℚ) < num / den := by
      rw [div_lt_div_iff₀ two_pos hden]
      exact_mod_cast (by have := Nat.compare_eq_gt.mp hcompare; omega)
    refine ⟨num / den - 1 / 2, by linarith, by linarith, ?_, ?_⟩
    · simp only [ExtendedMantissa.ofMantissaAndAccuracy, reduceCtorEq, false_iff]
      linarith
    · simp only [ExtendedMantissa.ofMantissaAndAccuracy, half, if_true]
      ring

theorem Represents.mantissa_le (h : Represents em x) : em.mantissa ≤ x ∧ x < em.mantissa + 1 := by
  obtain ⟨rest, hrest, hlt, -, rfl⟩ := h
  cases em.roundBit <;> simp only [half, if_true, if_false, Bool.false_eq_true] <;>
    constructor <;> linarith

/-- The bit that is shifted out becomes the next one, and the one before it a part of the rest. -/
theorem Represents.shiftRightOne (h : Represents em x) : Represents em.shiftRightOne (x / 2) := by
  obtain ⟨rest, hrest, hlt, hsticky, rfl⟩ := h
  obtain ⟨m, r, s⟩ := em
  dsimp only at hsticky ⊢
  have hround : half r = 0 ∨ half r = 1 / 2 := by cases r <;> simp [half]
  have hlast : (m : ℚ) = 2 * ((m / 2 : Nat) + half (m % 2 != 0)) := by
    have hm : (m : ℚ) = 2 * (m / 2 : Nat) + (m % 2 : Nat) := by
      exact_mod_cast (Nat.div_add_mod m 2).symm
    rw [hm]
    rcases Nat.mod_two_eq_zero_or_one m with h | h
    · simp [h, half]
    · simp only [h, half, Nat.cast_one, bne_iff_ne, ne_eq, one_ne_zero, not_false_iff, if_true]
      ring
  refine ⟨(half r + rest) / 2, ?_, ?_, ?_, ?_⟩
  · rcases hround with h | h <;> linarith only [h, hrest]
  · rcases hround with h | h <;> linarith only [h, hlt]
  · cases r
    · simpa [ExtendedMantissa.shiftRightOne, half] using hsticky
    · simp only [ExtendedMantissa.shiftRightOne, half, Bool.true_or, reduceCtorEq, false_iff,
        if_true]
      linarith
  · simp only [ExtendedMantissa.shiftRightOne, hlast]
    ring

theorem Represents.shiftRight (h : Represents em x) (k : Nat) :
    Represents (em >>> k) (x / 2 ^ k) := by
  induction k with
  | zero =>
    rw [pow_zero, div_one]
    exact h
  | succ k ih =>
    have hstep := ih.shiftRightOne
    rwa [div_div, ← pow_succ] at hstep

/-- The mantissa is rounded to the nearest whole number. -/
theorem Represents.isNearest (h : Represents em x) : IsNearest em.roundedMantissa x := by
  obtain ⟨rest, hrest, hlt, hsticky, rfl⟩ := h
  obtain ⟨m, r, s⟩ := em
  have hpos (hs : s = true) : 0 < rest := by
    refine lt_of_le_of_ne hrest fun h => ?_
    cases hs.symm.trans (hsticky.mpr h.symm)
  cases r
  · -- below the half, and rounded down
    have hround : (ExtendedMantissa.mk m false s).roundedMantissa = m := by cases s <;> rfl
    rw [hround]
    refine isNearest_of_lt ?_
    rw [abs_lt]
    simp only [half, Bool.false_eq_true, if_false, Int.cast_natCast]
    constructor <;> linarith
  cases s
  · -- at the half, and rounded to the even one
    obtain rfl := hsticky.mp rfl
    have hround : (ExtendedMantissa.mk m true false).roundedMantissa = m + m % 2 := rfl
    rw [hround]
    simp only [half, if_true, add_zero]
    rcases Nat.mod_two_eq_zero_or_one m with h | h
    · rw [h, add_zero]
      refine ⟨?_, fun _ => by exact_mod_cast Nat.even_iff.mpr h⟩
      rw [abs_le]
      constructor <;> push_cast <;> linarith
    · rw [h]
      refine ⟨?_, fun _ => by exact_mod_cast Nat.even_iff.mpr (by omega)⟩
      rw [Nat.cast_add, abs_le]
      constructor <;> push_cast <;> linarith
  · -- above the half, and rounded up
    have hround : (ExtendedMantissa.mk m true true).roundedMantissa = m + 1 := rfl
    have hrest := hpos rfl
    rw [hround]
    refine isNearest_of_lt ?_
    simp only [half, if_true, Int.cast_natCast, abs_lt]
    constructor <;> push_cast <;> linarith

end Represents

/-! ## The unit of the last place -/

/-- The least number that is rounded to something too large for a double. -/
def beyond : ℚ := 2 ^ 1024 - 2 ^ 970

theorem beyond_eq : beyond = (2 ^ 53 - 1 / 2) * 2 ^ (971 : ℤ) := by
  have hlast : (2 : ℚ) ^ (971 : ℤ) = 2 * 2 ^ 970 := (zpow_ofNat 2 971).trans (pow_succ' 2 970)
  have htop : (2 : ℚ) ^ 1024 = 2 ^ 54 * 2 ^ 970 := pow_add 2 54 970
  rw [beyond, hlast, htop]
  generalize (2 : ℚ) ^ 970 = unit
  ring

/-- A magnitude in units of the last place: as many bits as there are in a double, fewer only at the
smallest unit, and rounded to the nearest whole number of units. -/
structure IsPlaced (z : ℚ) (m : ℕ) (e : ℤ) : Prop where
  least : -1074 ≤ e
  full : e = -1074 ∨ 2 ^ 52 ≤ z / 2 ^ e
  bounded : z / 2 ^ e < 2 ^ 53
  nearest : IsNearest m (z / 2 ^ e)

/-- How what a double is worth lies to the number that it was rounded from. -/
structure Near (z v : ℚ) : Prop where
  nonneg : 0 ≤ z → 0 ≤ v
  nonpos : z ≤ 0 → v ≤ 0
  close : ∀ n : ℤ, -1021 ≤ n → |z| < 2 ^ n → |v - z| ≤ 2 ^ (n - 54)
  exact : ∀ k e : ℤ, -1074 ≤ e → |(k : ℚ)| < 2 ^ 53 → z = k * 2 ^ e → v = z

section Near

variable {z v : ℚ}

theorem near_self (z : ℚ) : Near z z where
  nonneg := id
  nonpos := id
  close n _ _ := by
    rw [sub_self, abs_zero]
    positivity
  exact _ _ _ _ _ := rfl

theorem Near.neg (h : Near z v) : Near (-z) (-v) where
  nonneg hz := neg_nonneg.mpr (h.nonpos (neg_nonneg.mp hz))
  nonpos hz := neg_nonpos.mpr (h.nonneg (neg_nonpos.mp hz))
  close n hn hz := by
    rw [← neg_sub_neg, neg_neg, neg_neg, abs_sub_comm]
    exact h.close n hn (by rwa [abs_neg] at hz)
  exact k e he hk hz := by
    refine neg_inj.mpr (h.exact (-k) e he ?_ ?_)
    · rwa [Int.cast_neg, abs_neg]
    · rw [Int.cast_neg, neg_mul, ← hz, neg_neg]

end Near

namespace IsPlaced

variable {z : ℚ} {m : ℕ} {e : ℤ}

theorem mantissa_le (h : IsPlaced z m e) : m ≤ 0x20000000000000 := by
  have hclose := (abs_le.mp h.nearest.1).2
  have hlt : (m : ℚ) < 2 ^ 53 + 1 := by
    have := h.bounded
    push_cast at hclose
    linarith
  have hlt : m < 2 ^ 53 + 1 := by exact_mod_cast hlt
  omega

theorem le_mantissa (h : IsPlaced z m e) : 0x10000000000000 ≤ m ∨ e = -1074 := by
  refine h.full.symm.imp_left fun hfull => ?_
  have hclose := (abs_le.mp h.nearest.1).1
  have hlt : (2 ^ 52 : ℚ) < m + 1 := by
    push_cast at hclose
    linarith
  have hlt : 2 ^ 52 < m + 1 := by exact_mod_cast hlt
  omega

theorem mul_div (z : ℚ) (e : ℤ) : z / 2 ^ e * 2 ^ e = z := div_mul_cancel₀ z (by positivity)

theorem le_add_of_lt {a b : ℤ} (h : (2 : ℚ) ^ a < 2 ^ b) : a < b :=
  (zpow_lt_zpow_iff_right₀ one_lt_two).mp h

/-- The unit is no larger than a number calls for that has fewer bits. -/
theorem exponent_le (h : IsPlaced z m e) {n : ℤ} (hn : -1074 ≤ n) (hz : z < 2 ^ (n + 53)) :
    e ≤ n := by
  rcases h.full with rfl | hfull
  · exact hn
  · rw [le_div_iff₀ (by positivity), ← zpow_natCast, ← zpow_add₀ two_ne_zero] at hfull
    have := le_add_of_lt (lt_of_le_of_lt hfull hz)
    push_cast at this
    omega

theorem near (h : IsPlaced z m e) (hz : 0 ≤ z) : Near z (m * 2 ^ e) where
  nonneg _ := by positivity
  nonpos hle := by
    have hzero : z / 2 ^ e = (0 : ℤ) := by
      rw [le_antisymm hle hz, zero_div, Int.cast_zero]
    have hm : (m : ℤ) = 0 := h.nearest.eq_of_int hzero
    rw [Int.natCast_eq_zero.mp hm]
    simp
  close n hn hlt := by
    rw [abs_of_nonneg hz] at hlt
    have he : e ≤ n - 53 := h.exponent_le (by omega) (by rwa [sub_add_cancel])
    have hclose : |(m : ℚ) - z / 2 ^ e| ≤ 1 / 2 := by exact_mod_cast h.nearest.1
    have hpos : (0 : ℚ) < 2 ^ e := by positivity
    calc |(m : ℚ) * 2 ^ e - z| = |((m : ℚ) - z / 2 ^ e) * 2 ^ e| := by rw [sub_mul, mul_div]
      _ = |(m : ℚ) - z / 2 ^ e| * 2 ^ e := by rw [abs_mul, abs_of_pos hpos]
      _ ≤ 1 / 2 * 2 ^ e := mul_le_mul_of_nonneg_right hclose hpos.le
      _ = 2 ^ (e - 1) := by rw [zpow_sub_one₀ two_ne_zero]; ring
      _ ≤ 2 ^ (n - 54) := zpow_le_zpow_right₀ one_le_two (by omega)
  exact k f hf hk hzk := by
    have hlt : z < 2 ^ (f + 53) := by
      rw [hzk, add_comm, zpow_add₀ two_ne_zero]
      exact mul_lt_mul_of_pos_right (lt_of_le_of_lt (le_abs_self _) hk) (by positivity)
    have he := h.exponent_le hf hlt
    obtain ⟨j, hj⟩ := Int.le.dest he
    have hint : z / 2 ^ e = (k * 2 ^ j : ℤ) := by
      rw [hzk, ← hj, zpow_add₀ two_ne_zero, zpow_natCast]
      push_cast
      field_simp
    have hm := h.nearest.eq_of_int hint
    have hm : (m : ℚ) = z / 2 ^ e := by rw [hint, ← hm, Int.cast_natCast]
    rw [hm, mul_div]

/-- What is below the least number that is too large has the exponent of a double, and all its bits
are not ones followed by a carry. -/
theorem lt_beyond_iff (h : IsPlaced z m e) :
    z < beyond ↔ e ≤ 970 ∨ e = 971 ∧ m < 0x20000000000000 := by
  have hclose := abs_le.mp h.nearest.1
  rw [Int.cast_natCast] at hclose
  constructor
  · intro hz
    have hpower : beyond < 2 ^ ((971 : ℤ) + 53) := by
      rw [beyond_eq, zpow_add₀ two_ne_zero, mul_comm]
      gcongr
      norm_num
    rcases Int.lt_or_eq_of_le (h.exponent_le (by decide) (hz.trans hpower)) with he | rfl
    · exact .inl (by omega)
    · refine .inr ⟨rfl, ?_⟩
      rw [beyond_eq, ← div_lt_iff₀ (by positivity)] at hz
      have hlt : (m : ℚ) < 2 ^ 53 := by linarith
      exact_mod_cast hlt
  · rintro (he | ⟨rfl, hm⟩)
    · have hlt : z < 2 ^ (e + 53) := by
        rw [add_comm, zpow_add₀ two_ne_zero, ← div_lt_iff₀ (by positivity)]
        exact h.bounded
      calc z < 2 ^ (e + 53) := hlt
        _ ≤ 2 ^ ((971 : ℤ) + 52) := zpow_le_zpow_right₀ one_le_two (by omega)
        _ = 2 ^ 52 * 2 ^ (971 : ℤ) := by rw [add_comm, zpow_add₀ two_ne_zero]; rfl
        _ ≤ beyond := by
          rw [beyond_eq]
          gcongr
          norm_num
    · rw [beyond_eq, ← div_lt_iff₀ (by positivity)]
      have hm' : (m : ℚ) ≤ 2 ^ 53 - 1 := by
        rw [le_sub_iff_add_le]
        exact_mod_cast hm
      refine lt_of_le_of_ne (by linarith) fun hhalf => ?_
      -- only all ones lie a half below the carry, and they are not even
      have heven := h.nearest.2 ?_
      · have hall : (m : ℚ) = 2 ^ 53 - 1 := by linarith
        have hall : m + 1 = 2 ^ 53 := by
          rw [eq_sub_iff_add_eq] at hall
          exact_mod_cast hall
        rw [Int.even_coe_nat, Nat.even_iff] at heven
        omega
      · rw [Int.cast_natCast, hhalf, abs_of_nonpos] <;> linarith

end IsPlaced

/-! ## Rounding -/

section Rounding

variable {z : ℚ} {m : ℕ} {e : ℤ} {accuracy : Accuracy}

theorem mantissa_ofMantissaAndAccuracy (m : ℕ) (accuracy : Accuracy) :
    (ExtendedMantissa.ofMantissaAndAccuracy m accuracy).mantissa = m := by
  rcases accuracy with _ | _ | _ | _ <;> rfl

/-- Shifting leaves the 53 bits of a double, where there are as many. -/
theorem shifted_mantissa {k : ℕ} (hk : (k : ℤ) = max (m.log2 + e - 52) (-1074) - e) :
    m / 2 ^ k < 2 ^ 53 ∧ (max (m.log2 + e - 52) (-1074) = -1074 ∨ 2 ^ 52 ≤ m / 2 ^ k) := by
  constructor
  · rw [Nat.div_lt_iff_lt_mul (Nat.two_pow_pos k), ← Nat.pow_add]
    exact Nat.lt_of_lt_of_le Nat.lt_log2_self (Nat.pow_le_pow_right (by decide) (by omega))
  · rw [Nat.le_div_iff_mul_le (Nat.two_pow_pos k), ← Nat.pow_add]
    by_cases h : max (m.log2 + e - 52) (-1074) = -1074
    · exact .inl h
    · have hlog : 52 + k = m.log2 := by omega
      have hm : m ≠ 0 := by
        rintro rfl
        rw [Nat.log2_zero] at hlog
        omega
      rw [hlog]
      exact .inr (Nat.log2_self_le hm)

/-- A number whose first bits are known, down to the last place at least, is put in units of the
last place by shifting and rounding. -/
theorem isPlaced_shift
    (h : Represents (ExtendedMantissa.ofMantissaAndAccuracy m accuracy) (z / 2 ^ e))
    (he : e ≤ max (m.log2 + e - 52) (-1074)) :
    let first := shiftToTargetExponent Format.binary64 m e accuracy
    IsPlaced z first.1.roundedMantissa first.2 := by
  simp only [shiftToTargetExponent, shiftToExponent, targetExponent_eq]
  obtain ⟨k, hk⟩ := Int.le.dest he
  have hk' : (k : ℤ) = max (m.log2 + e - 52) (-1074) - e := by omega
  obtain ⟨hlt, hfull⟩ := shifted_mantissa hk'
  have hshift : (max ((m.log2 : ℤ) + e - 52) (-1074) - e).toNat = k := by omega
  have hrep := h.shiftRight k
  rw [div_div, ← zpow_natCast, ← zpow_add₀ two_ne_zero] at hrep
  have hlow := hrep.mantissa_le
  rw [shift_mantissa, mantissa_ofMantissaAndAccuracy, Nat.shiftRight_eq_div_pow] at hlow
  rw [hshift]
  refine ⟨by omega, ?_, ?_, hrep.isNearest⟩
  · rw [hk]
    refine hfull.imp_right fun hfull => ?_
    rw [hk] at hlow
    have hfull : (2 ^ 52 : ℚ) ≤ (m / 2 ^ k : ℕ) := by exact_mod_cast hfull
    exact hfull.trans hlow.1
  · have hlt : ((m / 2 ^ k : ℕ) + 1 : ℚ) ≤ 2 ^ 53 := by exact_mod_cast hlt
    exact hlow.2.trans_le hlt

/-- Rounding may have made the mantissa one bit too long, and then it is shifted once more. -/
theorem second_shift (hm : m ≤ 0x20000000000000) (he : -1074 ≤ e) :
    let last := shiftToTargetExponent Format.binary64 m e .exact
    m < 0x20000000000000 ∧ last.1.mantissa = m ∧ last.2 = e ∨
      m = 0x20000000000000 ∧ last.1.mantissa = 0x10000000000000 ∧ last.2 = e + 1 := by
  simp only [shiftToTargetExponent, shiftToExponent, targetExponent_eq, shift_mantissa,
    ExtendedMantissa.ofMantissaAndAccuracy, Nat.shiftRight_eq_div_pow]
  rcases Nat.lt_or_eq_of_le hm with hlt | rfl
  · have hlog : m.log2 ≤ 52 := Nat.le_of_lt_succ (by
      rcases Nat.eq_zero_or_pos m with rfl | hpos
      · decide
      · exact (Nat.log2_lt (Nat.ne_of_gt hpos)).mpr hlt)
    have hshift : (max ((m.log2 : ℤ) + e - 52) (-1074) - e).toNat = 0 := by omega
    rw [hshift]
    exact .inl ⟨hlt, Nat.div_one m, add_zero e⟩
  · have hlog : Nat.log2 0x20000000000000 = 53 := by decide +kernel
    rw [hlog]
    have hshift : (max (((53 : ℕ) : ℤ) + e - 52) (-1074) - e).toNat = 1 := by omega
    rw [hshift]
    exact .inr ⟨rfl, rfl, rfl⟩

/-- Something unpacked is what a number is rounded to. -/
structure Rounds (z : ℚ) (u : UnpackedFloat) : Prop where
  canonical : Canonical u
  isFinite : u.isFinite = true
  near : Near z (amount u)
  upTo_iff : UpTo 971 u ↔ |z| < beyond

theorem abs_factor_mul (s : UnpackedFloat.Sign) (hz : 0 ≤ z) : |factor s * z| = z := by
  cases s
  · rw [factor_negative, neg_one_mul, abs_neg, abs_of_nonneg hz]
  · rw [factor_positive, one_mul, abs_of_nonneg hz]

theorem near_factor_mul {v : ℚ} (s : UnpackedFloat.Sign) (h : Near z v) :
    Near (factor s * z) (factor s * v) := by
  cases s
  · rw [factor_negative, neg_one_mul, neg_one_mul]
    exact h.neg
  · rw [factor_positive, one_mul, one_mul]
    exact h

/-- **What is known down to the last place is rounded to the nearest double.** -/
theorem rounds_roundWithAccuracy (s : UnpackedFloat.Sign) (hz : 0 ≤ z)
    (h : Represents (ExtendedMantissa.ofMantissaAndAccuracy m accuracy) (z / 2 ^ e))
    (he : e ≤ max (m.log2 + e - 52) (-1074)) :
    Rounds (factor s * z) (roundWithAccuracy Format.binary64 s m e accuracy) := by
  have hplaced := isPlaced_shift h he
  unfold roundWithAccuracy
  generalize shiftToTargetExponent Format.binary64 m e accuracy = first at hplaced
  obtain ⟨em, f⟩ := first
  dsimp only at hplaced ⊢
  have hlast := second_shift hplaced.mantissa_le hplaced.least
  have hbeyond := hplaced.lt_beyond_iff
  have hnear := near_factor_mul s (hplaced.near hz)
  generalize em.roundedMantissa = rounded at hplaced hlast hbeyond hnear
  generalize shiftToTargetExponent Format.binary64 rounded f .exact = last at hlast
  obtain ⟨⟨n, round, sticky⟩, g⟩ := last
  dsimp only at hlast ⊢
  rcases hlast with ⟨hlt, rfl, rfl⟩ | ⟨rfl, rfl, rfl⟩
  · by_cases hzero : n = 0
    · rw [dif_pos hzero]
      subst hzero
      have hleast : g = -1074 := hplaced.le_mantissa.resolve_left (by decide)
      rw [Nat.cast_zero, zero_mul, mul_zero, ← amount_zero s] at hnear
      exact ⟨trivial, rfl, hnear, ⟨fun _ => by rw [abs_factor_mul s hz, hbeyond]; omega,
        fun _ => trivial⟩⟩
    · rw [dif_neg hzero]
      refine ⟨⟨hlt, hplaced.least, hplaced.le_mantissa⟩, rfl, hnear, ?_⟩
      rw [abs_factor_mul s hz, hbeyond]
      change g ≤ 971 ↔ _
      omega
  · have hcarry : ((0x20000000000000 : ℕ) : ℚ) * 2 ^ f = (0x10000000000000 : ℕ) * 2 ^ (f + 1) := by
      rw [zpow_add_one₀ two_ne_zero]
      push_cast
      ring
    rw [hcarry] at hnear
    rw [dif_neg (by decide)]
    refine ⟨⟨by decide, hplaced.least.trans (by omega), .inl le_rfl⟩, rfl, hnear, ?_⟩
    rw [abs_factor_mul s hz, hbeyond]
    change f + 1 ≤ 971 ↔ _
    omega

end Rounding

end Binary64

end MetesBounds
