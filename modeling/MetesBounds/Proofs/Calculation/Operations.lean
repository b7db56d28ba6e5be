import Mathlib
import MetesBounds.Proofs.Calculation.Nearest

/-!
# `Calculation/Operations` — sums, products and quotients of doubles

Each operation on finite doubles gives what the exact result is rounded to: finite where that is not
too large, and then near to it.

Main statements: `Binary64.rounded_add`, `rounded_sub`, `rounded_mul`, `rounded_div` and
`rounded_ofNat`.
-/

set_option autoImplicit false

namespace MetesBounds

namespace Binary64

open Float.Model Float.Model.UnpackedFloat

/-! ## Unpacked -/

section Unpacked

variable {u v : UnpackedFloat} {m n : ℕ} {e f : ℤ}

theorem represents_int (m : ℕ) (e : ℤ) :
    Represents (ExtendedMantissa.ofMantissaAndAccuracy m .exact) (m * 2 ^ e / 2 ^ e) := by
  rw [mul_div_cancel_right₀ _ (by positivity)]
  exact represents_exact m

theorem log2_shiftLeft (hm : 0 < m) (k : ℕ) : (m <<< k).log2 = m.log2 + k := by
  have hm' := Nat.ne_of_gt hm
  have hpos : 0 < 2 ^ k := Nat.two_pow_pos k
  rw [Nat.shiftLeft_eq, Nat.log2_eq_iff (Nat.mul_pos hm hpos).ne', Nat.pow_add,
    Nat.add_right_comm, Nat.pow_add]
  exact ⟨Nat.mul_le_mul_right _ (Nat.log2_self_le hm'),
    Nat.mul_lt_mul_of_pos_right Nat.lt_log2_self hpos⟩

theorem mul_two_zpow_shiftLeft (m k : ℕ) (e : ℤ) :
    ((m <<< k : ℕ) * 2 ^ (e - k) : ℚ) = m * 2 ^ e := by
  rw [Nat.shiftLeft_eq, zpow_sub₀ two_ne_zero, zpow_natCast]
  push_cast
  field_simp

/-- A mantissa is first given as many bits as there are in a double. -/
theorem rounds_round (s : UnpackedFloat.Sign) (hm : 0 < m) (e : ℤ) :
    Rounds (factor s * (m * 2 ^ e)) (UnpackedFloat.round Format.binary64 s m e) := by
  unfold UnpackedFloat.round decreaseExponent
  dsimp only
  rw [targetExponent_eq]
  generalize hk : (e - max ((m.log2 : ℤ) + e - 52) (-1074)).toNat = k
  rw [← mul_two_zpow_shiftLeft m k e]
  refine rounds_roundWithAccuracy s (by positivity) (represents_int _ _) ?_
  rw [log2_shiftLeft hm]
  push_cast
  omega

theorem beyond_pos : 0 < beyond := by
  rw [beyond_eq]
  positivity

theorem rounds_zero (s : UnpackedFloat.Sign) : Rounds 0 (.zero s) where
  canonical := trivial
  isFinite := rfl
  near := by
    rw [amount_zero]
    exact near_self 0
  upTo_iff := by
    rw [abs_zero]
    exact iff_of_true trivial beyond_pos

theorem rounds_normalize (n : ℤ) (e : ℤ) :
    Rounds (n * 2 ^ e) (UnpackedFloat.normalize Format.binary64 n e .positive) := by
  unfold UnpackedFloat.normalize
  rcases lt_trichotomy n 0 with h | rfl | h
  · obtain ⟨m, hm⟩ := Int.eq_ofNat_of_zero_le (neg_nonneg.mpr h.le)
    obtain rfl : n = -m := neg_eq_iff_eq_neg.mp hm
    have hvalue : ((-(m : ℤ) : ℤ) * 2 ^ e : ℚ) = factor .negative * (m * 2 ^ e) := by simp
    rw [compare_lt_iff_lt.mpr h, hvalue]
    dsimp only
    rw [neg_neg, Int.toNat_natCast]
    exact rounds_round .negative (by omega) e
  · rw [Int.cast_zero, zero_mul]
    exact rounds_zero _
  · obtain ⟨m, rfl⟩ := Int.eq_ofNat_of_zero_le h.le
    have hvalue : ((m : ℤ) * 2 ^ e : ℚ) = factor .positive * (m * 2 ^ e) := by simp
    rw [compare_gt_iff_gt.mpr h, hvalue]
    exact rounds_round .positive (by omega) e

/-! ### Finite doubles, unpacked -/

/-- Whether something unpacked is a finite double. -/
def IsDouble (u : UnpackedFloat) : Prop := Canonical u ∧ UpTo 971 u

/-- The largest double is a half of its last place below the numbers that are too large. -/
theorem IsDouble.abs_le (h : IsDouble u) : |amount u| ≤ beyond - 2 ^ 970 := by
  have hhalf : (2 : ℚ) ^ (971 : ℤ) = 2 * 2 ^ 970 := (zpow_ofNat 2 971).trans (pow_succ' 2 970)
  have hlargest : beyond - 2 ^ 970 = (2 ^ 53 - 1) * 2 ^ (971 : ℤ) := by
    rw [beyond_eq, hhalf]
    generalize (2 : ℚ) ^ 970 = unit
    ring
  obtain ⟨hc, hu⟩ := h
  rw [hlargest]
  cases u with
  | infinity s => exact hu.elim
  | notANumber => exact hu.elim
  | zero s =>
    rw [amount_zero, abs_zero]
    positivity
  | finite s m e hm =>
    have hle : (m : ℚ) ≤ 2 ^ 53 - 1 := by
      rw [le_sub_iff_add_le]
      exact_mod_cast hc.1
    have he : (2 : ℚ) ^ e ≤ 2 ^ (971 : ℤ) := zpow_le_zpow_right₀ one_le_two hu
    rw [amount_finite, abs_factor_mul s (by positivity)]
    exact mul_le_mul hle he (by positivity) (by norm_num)

theorem IsDouble.abs_lt_beyond (h : IsDouble u) : |amount u| < beyond :=
  h.abs_le.trans_lt (sub_lt_self _ (by positivity))

/-- A double is what its own worth is rounded to. -/
theorem IsDouble.rounds (h : IsDouble u) : Rounds (amount u) u where
  canonical := h.1
  isFinite := h.2.isFinite
  near := near_self _
  upTo_iff := iff_of_true h.2 h.abs_lt_beyond

theorem amount_neg (u : UnpackedFloat) : amount u.neg = -amount u := by
  cases u with
  | infinity s => exact neg_zero.symm
  | notANumber => exact neg_zero.symm
  | zero s =>
    have hneg : (UnpackedFloat.zero s).neg = .zero (-s) := rfl
    rw [hneg, amount_zero, amount_zero, neg_zero]
  | finite s m e hm =>
    have hneg : (UnpackedFloat.finite s m e hm).neg = .finite (-s) m e hm := rfl
    rw [hneg, amount_finite, amount_finite, factor_neg, neg_mul]

theorem IsDouble.neg (h : IsDouble u) : IsDouble u.neg := by
  cases u <;> exact h

theorem IsDouble.abs (h : IsDouble u) : IsDouble u.abs := by
  cases u <;> exact h

theorem amount_abs (u : UnpackedFloat) : amount u.abs = |amount u| := by
  cases u with
  | infinity s => exact abs_zero.symm
  | notANumber => exact abs_zero.symm
  | zero s =>
    have habs : (UnpackedFloat.zero s).abs = .zero .positive := rfl
    rw [habs, amount_zero, amount_zero, abs_zero]
  | finite s m e hm =>
    have habs : (UnpackedFloat.finite s m e hm).abs = .finite .positive m e hm := rfl
    rw [habs, amount_finite, amount_finite, abs_factor_mul s (by positivity), factor_positive,
      one_mul]

theorem apply_natCast (s : UnpackedFloat.Sign) (m : ℕ) : (s.apply m : ℚ) = factor s * m := by
  cases s <;> simp [UnpackedFloat.Sign.apply]

/-- A mantissa with its sign is worth the same at a smaller exponent. -/
theorem apply_decreaseExponent (s : UnpackedFloat.Sign) (m : ℕ) (h : f ≤ e) :
    (s.apply (decreaseExponent m e f).1 : ℚ) * 2 ^ f = factor s * (m * 2 ^ e) := by
  obtain ⟨k, rfl⟩ := Int.le.dest h
  have hk : (f + k - f).toNat = k := by omega
  have hvalue := mul_two_zpow_shiftLeft m k (f + k)
  rw [add_sub_cancel_right] at hvalue
  rw [apply_natCast, decreaseExponent, hk, mul_assoc, hvalue]

theorem rounds_add (hu : IsDouble u) (hv : IsDouble v) :
    Rounds (amount u + amount v) (UnpackedFloat.add Format.binary64 u v) := by
  cases u with
  | infinity s => exact hu.2.elim
  | notANumber => exact hu.2.elim
  | zero s =>
    rw [amount_zero, zero_add]
    cases v with
    | infinity t => exact hv.2.elim
    | notANumber => exact hv.2.elim
    | zero t =>
      rw [amount_zero]
      cases s <;> cases t <;> exact rounds_zero _
    | finite t n f hn => exact hv.rounds
  | finite s m e hm =>
    cases v with
    | infinity t => exact hv.2.elim
    | notANumber => exact hv.2.elim
    | zero t =>
      rw [amount_zero, add_zero]
      exact hu.rounds
    | finite t n f hn =>
      rw [amount_finite, amount_finite, ← apply_decreaseExponent s m (min_le_left e f),
        ← apply_decreaseExponent t n (min_le_right e f), ← add_mul, ← Int.cast_add]
      exact rounds_normalize _ _

theorem add_neg_eq_sub (hu : IsDouble u) (hv : IsDouble v) :
    UnpackedFloat.add Format.binary64 u v.neg = UnpackedFloat.sub Format.binary64 u v := by
  cases u with
  | infinity s => exact hu.2.elim
  | notANumber => exact hu.2.elim
  | zero s => cases v <;> rfl
  | finite s m e hm =>
    cases v with
    | infinity t => exact hv.2.elim
    | notANumber => exact hv.2.elim
    | zero t => rfl
    | finite t n f hn =>
      have happly (k : ℤ) : (-t).apply k = -t.apply k := by
        cases t
        · exact (neg_neg k).symm
        · rfl
      simp only [UnpackedFloat.neg, UnpackedFloat.add, UnpackedFloat.sub, happly, sub_eq_add_neg]

theorem rounds_sub (hu : IsDouble u) (hv : IsDouble v) :
    Rounds (amount u - amount v) (UnpackedFloat.sub Format.binary64 u v) := by
  rw [sub_eq_add_neg, ← amount_neg, ← add_neg_eq_sub hu hv]
  exact rounds_add hu hv.neg

/-- Of two factors with fewer bits than a double the product lies below the smallest one. -/
theorem exponent_mul_le (hm : 0 < m) (hn : 0 < n) (he : 0x10000000000000 ≤ m ∨ e = -1074)
    (hf : 0x10000000000000 ≤ n ∨ f = -1074) :
    e + f ≤ max ((m * n).log2 + (e + f) - 52) (-1074) := by
  have hlog (h : 2 ^ 52 ≤ m * n) : 52 ≤ (m * n).log2 :=
    (Nat.le_log2 (Nat.mul_pos hm hn).ne').mpr h
  rcases he with hm' | rfl
  · have := hlog (hm'.trans (Nat.le_mul_of_pos_right m hn))
    omega
  rcases hf with hn' | rfl
  · have := hlog (hn'.trans (Nat.le_mul_of_pos_left n hm))
    omega
  · omega

theorem rounds_mul (hu : IsDouble u) (hv : IsDouble v) :
    Rounds (amount u * amount v) (UnpackedFloat.mul Format.binary64 u v) := by
  cases u with
  | infinity s => exact hu.2.elim
  | notANumber => exact hu.2.elim
  | zero s =>
    rw [amount_zero, zero_mul]
    cases v <;> first | exact rounds_zero _ | exact hv.2.elim
  | finite s m e hm =>
    cases v with
    | infinity t => exact hv.2.elim
    | notANumber => exact hv.2.elim
    | zero t =>
      rw [amount_zero, mul_zero]
      exact rounds_zero _
    | finite t n f hn =>
      have hvalue : amount (.finite s m e hm) * amount (.finite t n f hn) =
          factor (s * t) * ((m * n : ℕ) * 2 ^ (e + f)) := by
        rw [amount_finite, amount_finite, factor_mul, zpow_add₀ two_ne_zero]
        push_cast
        ring
      rw [hvalue, mul_finite]
      exact rounds_roundWithAccuracy _ (by positivity) (represents_int _ _)
        (exponent_mul_le hm hn hu.1.2.2 hv.1.2.2)

/-! ### Quotients -/

/-- What a division leaves undivided is a part of the divisor and tells the rest of the quotient. -/
theorem represents_div (m : ℕ) (hn : 0 < n) :
    Represents (ExtendedMantissa.ofMantissaAndAccuracy (m / n) (accuracyOfFraction (m % n) n))
      (m / n) := by
  rw [div_eq_add_mod_div m hn]
  exact represents_fraction _ (Nat.mod_lt m hn)

/-- The exponent that a division is carried down to. -/
def quotientExponent (m : ℕ) (e : ℤ) (n : ℕ) (f : ℤ) : ℤ :=
  min (e - f) (max ((m.log2 : ℤ) + e - (n.log2 + f) - 53) (-1074))

theorem divCore_eq (m : ℕ) (e : ℤ) (n : ℕ) (f : ℤ) :
    divCore Format.binary64 m e n f =
      let k := (e - f - quotientExponent m e n f).toNat
      ((m <<< k) / n, quotientExponent m e n f, accuracyOfFraction ((m <<< k) % n) n) := by
  have htarget : Format.binary64.targetExponent (totalExponent m e - totalExponent n f) =
      max ((m.log2 : ℤ) + e - (n.log2 + f) - 53) (-1074) := by
    have hbits : Format.binary64.mantissaBits = 53 := rfl
    have hleast : Format.binary64.minExponent = -1074 := rfl
    rw [Format.targetExponent, totalExponent, totalExponent, hbits, hleast]
    omega
  rw [divCore, htarget]
  rfl

/-- The quotient has as many bits as there are in a double, or its last place is the smallest. -/
theorem exponent_div_le (hm : 0 < m) (hn : 0 < n) {k : ℕ}
    (hk : (k : ℤ) = e - f - quotientExponent m e n f) :
    quotientExponent m e n f ≤
      max ((((m <<< k) / n).log2 : ℤ) + quotientExponent m e n f - 52) (-1074) := by
  unfold quotientExponent at *
  by_cases hbits : n.log2 + 53 ≤ m.log2 + k
  · have hfull : 2 ^ 52 ≤ (m <<< k) / n := by
      rw [Nat.le_div_iff_mul_le hn]
      calc 2 ^ 52 * n ≤ 2 ^ 52 * 2 ^ (n.log2 + 1) := Nat.mul_le_mul_left _ Nat.lt_log2_self.le
        _ = 2 ^ (n.log2 + 53) := by rw [← Nat.pow_add]; congr 1; omega
        _ ≤ 2 ^ (m.log2 + k) := Nat.pow_le_pow_right (by decide) hbits
        _ ≤ m <<< k := by
          rw [Nat.pow_add, Nat.shiftLeft_eq]
          exact Nat.mul_le_mul_right _ (Nat.log2_self_le hm.ne')
    have hlog : 52 ≤ ((m <<< k) / n).log2 := (Nat.le_log2 (by omega)).mpr hfull
    omega
  · omega

/-- Nothing has to be known of what is divided but that it is finite. -/
theorem rounds_div (hu : u.isFinite = true) (hv : v.isFinite = true) (hne : amount v ≠ 0) :
    Rounds (amount u / amount v) (UnpackedFloat.div Format.binary64 u v) := by
  cases v with
  | infinity t => cases hv
  | notANumber => cases hv
  | zero t => exact absurd (amount_zero t) hne
  | finite t n f hn =>
    cases u with
    | infinity s => cases hu
    | notANumber => cases hu
    | zero s =>
      rw [amount_zero, zero_div]
      exact rounds_zero _
    | finite s m e hm =>
      have hdiv : UnpackedFloat.div Format.binary64 (.finite s m e hm) (.finite t n f hn) =
          let core := divCore Format.binary64 m e n f
          roundWithAccuracy Format.binary64 (s / t) core.1 core.2.1 core.2.2 := rfl
      have hle : quotientExponent m e n f ≤ e - f := min_le_left _ _
      rw [hdiv, divCore_eq]
      dsimp only
      obtain ⟨k, hk⟩ := Int.le.dest hle
      have hk' : (k : ℤ) = e - f - quotientExponent m e n f := by omega
      have hbits := exponent_div_le hm hn hk'
      rw [← hk', Int.toNat_natCast]
      generalize quotientExponent m e n f = g at *
      have hvalue : (m * 2 ^ e / (n * 2 ^ f) : ℚ) = (m <<< k : ℕ) / n * 2 ^ g := by
        have hg : g = e - k - f := by omega
        rw [← mul_two_zpow_shiftLeft m k e, hg, zpow_sub₀ two_ne_zero _ f]
        field_simp
      have hsign : amount (.finite s m e hm) / amount (.finite t n f hn) =
          factor (s / t) * (m * 2 ^ e / (n * 2 ^ f)) := by
        rw [amount_finite, amount_finite, factor_div, mul_div_mul_comm]
      rw [hsign]
      refine rounds_roundWithAccuracy _ (by positivity) ?_ hbits
      rw [hvalue, mul_div_cancel_right₀ _ (by positivity)]
      exact represents_div _ hn

/-! ### Whole numbers -/

/-- A whole number with enough more bits, none of them set. -/
theorem rounds_shifted {n k : ℕ} (hn : 0 < n) (hk : 52 ≤ k) :
    Rounds n (roundWithAccuracy Format.binary64 .positive (n <<< k) (0 - k) .exact) := by
  have hbits : (0 - k : ℤ) ≤ max (((n <<< k).log2 : ℤ) + (0 - k) - 52) (-1074) := by
    rw [log2_shiftLeft hn]
    push_cast
    omega
  have hrounds := rounds_roundWithAccuracy .positive (by positivity) (represents_int _ _) hbits
  rw [mul_two_zpow_shiftLeft, zpow_zero, mul_one, factor_positive, one_mul] at hrounds
  exact hrounds

/-- Scaling by no power of ten is the product with one. -/
theorem rounds_ofScientific (n : ℕ) :
    Rounds n (UnpackedFloat.ofScientific Format.binary64 n 0) := by
  have hbits : Format.binary64.mantissaBits = 53 := rfl
  unfold UnpackedFloat.ofScientific
  split_ifs with hn hlarge hsmall hnonneg
  · rw [hn, Nat.cast_zero]
    exact rounds_zero _
  · exact absurd hlarge (by decide)
  · have hfield : (2 : ℤ) ^ Format.binary64.exponentBits = 2048 := rfl
    rw [hfield] at hsmall
    omega
  · have hmantissa : n <<< 53 * 10 ^ Int.toNat 0 = n <<< 53 := Nat.mul_one _
    have hexponent : -((53 : ℕ) : ℤ) + 0 = 0 - (53 : ℕ) := by decide
    rw [mul_finite, hbits, hmantissa, hexponent]
    exact rounds_shifted (Nat.pos_of_ne_zero hn) (by decide)
  · exact absurd le_rfl hnonneg

end Unpacked

/-! ## Packed -/

/-- A double is what a number is rounded to: finite where it is not too large, and then near. -/
structure Rounded (z : ℚ) (x : Float) : Prop where
  isFinite_iff : x.isFinite = true ↔ |z| < beyond
  near : x.isFinite = true → Near z (worth x)

section Packed

variable {x y : Float} {z : ℚ}

theorem isDouble_unpack (h : x.isFinite = true) : IsDouble x.toModel.unpack :=
  ⟨canonical_unpack x, upTo_of_isFinite h⟩

theorem abs_worth_le (h : x.isFinite = true) : |worth x| ≤ beyond - 2 ^ 970 := by
  rw [worth_eq]
  exact (isDouble_unpack h).abs_le

theorem rounded_pack {u : UnpackedFloat} (h : Rounds z u) : Rounded z (.ofModel (pack u)) where
  isFinite_iff := by
    rw [← h.upTo_iff]
    refine ⟨upTo_of_isFinite_pack h.canonical, fun hu => ?_⟩
    change (pack u).unpack.isFinite = true
    rw [unpack_pack h.canonical hu]
    exact h.isFinite
  near hfinite := by
    have hunpack := unpack_pack h.canonical (upTo_of_isFinite_pack h.canonical hfinite)
    have hworth : worth (.ofModel (pack u)) = amount u :=
      (worth_eq _).trans (congrArg amount hunpack)
    rw [hworth]
    exact h.near

/-- Packing what is a double already keeps what it is worth. -/
theorem worth_pack {u : UnpackedFloat} (h : IsDouble u) :
    (Float.ofModel (pack u)).isFinite = true ∧ worth (.ofModel (pack u)) = amount u := by
  have hunpack := unpack_pack h.1 h.2
  refine ⟨?_, (worth_eq _).trans (congrArg amount hunpack)⟩
  change (pack u).unpack.isFinite = true
  rw [hunpack]
  exact h.2.isFinite

theorem worth_neg (hx : x.isFinite = true) : (-x).isFinite = true ∧ worth (-x) = -worth x := by
  rw [worth_eq x, ← amount_neg]
  exact worth_pack (isDouble_unpack hx).neg

theorem worth_abs (hx : x.isFinite = true) : x.abs.isFinite = true ∧ worth x.abs = |worth x| := by
  rw [worth_eq x, ← amount_abs]
  exact worth_pack (isDouble_unpack hx).abs

/-- What is not finite stays so when it is packed. -/
theorem isFinite_of_pack {u : UnpackedFloat} (h : (pack u).unpack.isFinite = true) :
    u.isFinite = true := by
  cases u with
  | infinity s => cases s <;> cases h
  | notANumber => cases h
  | _ => rfl

/-- Where an operation makes nothing finite of what is not finite, a finite result shows that the
operand is. -/
theorem isFinite_of_operation {f : UnpackedFloat → UnpackedFloat}
    (hinfinity : ∀ s, (f (.infinity s)).isFinite = false) (hnone : (f .notANumber).isFinite = false)
    (h : (pack (f x.toModel.unpack)).unpack.isFinite = true) : x.isFinite = true := by
  replace h := isFinite_of_pack h
  change x.toModel.unpack.isFinite = true
  generalize x.toModel.unpack = u at h
  cases u with
  | infinity s => exact absurd h (by rw [hinfinity]; exact Bool.false_ne_true)
  | notANumber => exact absurd h (by rw [hnone]; exact Bool.false_ne_true)
  | _ => rfl

theorem isFinite_of_neg (h : (-x).isFinite = true) : x.isFinite = true :=
  isFinite_of_operation (f := .neg) (fun _ => rfl) rfl h

theorem isFinite_of_mul (h : (x * y).isFinite = true) : x.isFinite = true :=
  isFinite_of_operation (f := (.mul Format.binary64 · y.toModel.unpack))
    (fun _ => by cases y.toModel.unpack <;> rfl) rfl h

theorem isFinite_of_div (h : (x / y).isFinite = true) : x.isFinite = true :=
  isFinite_of_operation (f := (.div Format.binary64 · y.toModel.unpack))
    (fun _ => by cases y.toModel.unpack <;> rfl) rfl h

variable (hx : x.isFinite = true) (hy : y.isFinite = true)

include hx hy

/-- **A sum of doubles is the exact sum, rounded.** -/
theorem rounded_add : Rounded (worth x + worth y) (x + y) := by
  rw [worth_eq, worth_eq]
  exact rounded_pack (rounds_add (isDouble_unpack hx) (isDouble_unpack hy))

/-- **A difference of doubles is the exact difference, rounded.** -/
theorem rounded_sub : Rounded (worth x - worth y) (x - y) := by
  rw [worth_eq, worth_eq]
  exact rounded_pack (rounds_sub (isDouble_unpack hx) (isDouble_unpack hy))

/-- **A product of doubles is the exact product, rounded.** -/
theorem rounded_mul : Rounded (worth x * worth y) (x * y) := by
  rw [worth_eq, worth_eq]
  exact rounded_pack (rounds_mul (isDouble_unpack hx) (isDouble_unpack hy))

/-- **A quotient of doubles is the exact quotient, rounded.** -/
theorem rounded_div (hne : worth y ≠ 0) : Rounded (worth x / worth y) (x / y) := by
  rw [worth_eq] at hne
  rw [worth_eq, worth_eq]
  exact rounded_pack (rounds_div hx hy hne)

/-- A double does not become too large by something small. -/
theorem isFinite_add (h : |worth y| ≤ 2 ^ 10) :
    (x + y).isFinite = true ∧ Near (worth x + worth y) (worth (x + y)) := by
  have hlt : |worth x + worth y| < beyond := calc
    |worth x + worth y| ≤ |worth x| + |worth y| := abs_add_le _ _
    _ ≤ beyond - 2 ^ 970 + 2 ^ 10 := add_le_add (abs_worth_le hx) h
    _ < beyond - 2 ^ 970 + 2 ^ 970 := add_lt_add_right (pow_lt_pow_right₀ one_lt_two (by decide)) _
    _ = beyond := sub_add_cancel _ _
  have hfinite := (rounded_add hx hy).isFinite_iff.mpr hlt
  exact ⟨hfinite, (rounded_add hx hy).near hfinite⟩

theorem isFinite_sub (h : |worth x| ≤ 2 ^ 10) :
    (x - y).isFinite = true ∧ Near (worth x - worth y) (worth (x - y)) := by
  have hlt : |worth x - worth y| < beyond := calc
    |worth x - worth y| ≤ |worth x| + |worth y| := abs_sub _ _
    _ ≤ 2 ^ 10 + (beyond - 2 ^ 970) := add_le_add h (abs_worth_le hy)
    _ < 2 ^ 970 + (beyond - 2 ^ 970) := add_lt_add_left (pow_lt_pow_right₀ one_lt_two (by decide)) _
    _ = beyond := add_sub_cancel _ _
  have hfinite := (rounded_sub hx hy).isFinite_iff.mpr hlt
  exact ⟨hfinite, (rounded_sub hx hy).near hfinite⟩

end Packed

/-! ### Whole numbers -/

section Whole

variable {x : Float} {z : ℚ}

theorem two_pow_lt_beyond : (2 : ℚ) ^ 53 < beyond := by
  rw [beyond_eq]
  calc (2 : ℚ) ^ 53 < (2 ^ 53 - 1 / 2) * 2 := by norm_num
    _ ≤ (2 ^ 53 - 1 / 2) * 2 ^ (971 : ℤ) := by
      gcongr
      exact (zpow_one (2 : ℚ)).symm.trans_le (zpow_le_zpow_right₀ one_le_two (by decide))

theorem one_lt_beyond : 1 < beyond :=
  lt_of_le_of_lt (one_le_pow₀ one_le_two) two_pow_lt_beyond

/-- A number of no more than 53 bits before the point is rounded to something near and close. -/
theorem Rounded.close (h : Rounded z x) {n : ℤ} (hlow : -1021 ≤ n) (hhigh : n ≤ 53)
    (hz : |z| < 2 ^ n) :
    x.isFinite = true ∧ Near z (worth x) ∧ |worth x - z| ≤ 2 ^ (n - 54) := by
  have hle : (2 : ℚ) ^ n ≤ 2 ^ 53 := calc
    (2 : ℚ) ^ n ≤ 2 ^ (53 : ℤ) := zpow_le_zpow_right₀ one_le_two hhigh
    _ = 2 ^ 53 := zpow_ofNat 2 53
  have hfinite := h.isFinite_iff.mpr (hz.trans_le (hle.trans two_pow_lt_beyond.le))
  exact ⟨hfinite, h.near hfinite, (h.near hfinite).close n hlow hz⟩

/-- A whole number of up to 53 bits is rounded to itself. -/
theorem Rounded.eq_of_int {n : ℤ} (h : Rounded n x) (hn : |n| < 2 ^ 53) :
    x.isFinite = true ∧ worth x = n := by
  have hlt : |(n : ℚ)| < 2 ^ 53 := by exact_mod_cast hn
  have hfinite := h.isFinite_iff.mpr (hlt.trans two_pow_lt_beyond)
  exact ⟨hfinite, (h.near hfinite).exact n 0 (by decide) hlt (by rw [zpow_zero, mul_one])⟩

theorem rounded_toFloat (n : UInt64) : Rounded n.toNat n.toFloat := by
  have hrounds := rounds_normalize n.toNat 0
  rw [zpow_zero, mul_one, Int.cast_natCast] at hrounds
  exact rounded_pack hrounds

theorem worth_toFloat {n : ℕ} (hn : n < 2 ^ 53) :
    n.toUInt64.toFloat.isFinite = true ∧ worth n.toUInt64.toFloat = n := by
  have hsize : n.toUInt64.toNat = n := by
    rw [Nat.toUInt64_eq, UInt64.toNat_ofNat_of_lt']
    exact hn.trans (by decide)
  have hrounded := rounded_toFloat n.toUInt64
  rw [hsize] at hrounded
  exact hrounded.eq_of_int (n := n) (by rw [Nat.abs_cast]; exact_mod_cast hn)

/-- The powers of ten that are doubles. -/
theorem worth_powerOfTen {k : ℕ} (hk : k < 23) :
    (Float.exactlyRepresentablePowersOfTen[k]).isFinite = true ∧
      worth (Float.exactlyRepresentablePowersOfTen[k]) = 10 ^ k := by
  have hpowers : ∀ k : Fin 23, (Float.exactlyRepresentablePowersOfTen[k]).isFinite = true ∧
      sameValue (ofFloat (Float.exactlyRepresentablePowersOfTen[k]))
        (.finite false (10 ^ k.val) 0) = true := by
    decide +kernel
  obtain ⟨hfinite, hsame⟩ := hpowers ⟨k, hk⟩
  refine ⟨hfinite, (worth_of_sameValue hsame).trans ?_⟩
  rw [Nat.cast_pow, Nat.cast_ofNat]

/-- **A whole number is made a double by rounding it.** -/
theorem rounded_ofNat (n : ℕ) : Rounded n (Float.ofNat n) := by
  have hofNat : Float.ofNat n = Float.ofScientific n false 0 := rfl
  rw [hofNat, Float.ofScientific]
  split
  · next hfits =>
    obtain ⟨hfinite, hworth⟩ := worth_toFloat hfits.1
    obtain ⟨hone, hone'⟩ := worth_powerOfTen (k := 0) (by decide)
    have hmul := rounded_mul hfinite hone
    rw [hworth, hone', pow_zero, mul_one] at hmul
    exact hmul
  · exact rounded_pack (rounds_ofScientific n)

/-- A whole number is too large for a double from a half beyond the largest on. -/
theorem isFinite_ofNat_iff {n : ℕ} : (Float.ofNat n).isFinite = true ↔ n < 2 ^ 1024 - 2 ^ 970 := by
  have hcast (j k : ℕ) (h : k ≤ j) : ((2 ^ j - 2 ^ k : ℕ) : ℚ) = 2 ^ j - 2 ^ k := by
    rw [Nat.cast_sub (Nat.pow_le_pow_right two_pos h)]
    push_cast
    rfl
  rw [(rounded_ofNat n).isFinite_iff, Nat.abs_cast, beyond, ← hcast 1024 970 (by decide),
    Nat.cast_lt]

theorem worth_ofNat {n : ℕ} (hn : n < 2 ^ 53) :
    (Float.ofNat n).isFinite = true ∧ worth (Float.ofNat n) = n :=
  (rounded_ofNat n).eq_of_int (n := n) (by rw [Nat.abs_cast]; exact_mod_cast hn)

/-- Of whole numbers of up to 53 bits the quotient is rounded once. -/
theorem rounded_quotient {n d : ℕ} (hn : n < 2 ^ 53) (hd : 0 < d) (hd' : d < 2 ^ 53) :
    Rounded (n / d) (Float.ofNat n / Float.ofNat d) := by
  obtain ⟨hfinite, hworth⟩ := worth_ofNat hn
  obtain ⟨hfinite', hworth'⟩ := worth_ofNat hd'
  have hdiv := rounded_div hfinite hfinite' (by rw [hworth']; exact_mod_cast hd.ne')
  rwa [hworth, hworth'] at hdiv

/-- A small whole number can be added to any double, and any double be taken from it. -/
theorem abs_worth_ofNat_le {n : ℕ} (hn : n ≤ 2 ^ 10) : |worth (Float.ofNat n)| ≤ 2 ^ 10 := by
  rw [(worth_ofNat (hn.trans_lt (by decide))).2, Nat.abs_cast]
  exact_mod_cast hn

end Whole

end Binary64

end MetesBounds
