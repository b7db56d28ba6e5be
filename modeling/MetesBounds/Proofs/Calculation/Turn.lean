import Mathlib
import MetesBounds.Proofs.Calculation.Operations

/-!
# `Calculation/Turn` — an angle within one turn

What is left of an angle after whole turns is worked out exactly. Where it is negative a turn is
added, which may round up to a whole turn, and a whole turn is none: so whatever the angle, as long
as it is finite, what comes out is at least zero and less than a turn. It does not change when it is
reduced to one turn again: a turn that is added never rounds away, and a zero that comes out has no
sign.

Main statements: `wrap_spec` and `wrap_wrap`.
-/

set_option autoImplicit false

namespace MetesBounds

namespace Binary64

open Float.Model Float.Model.UnpackedFloat

/-! ## Remainders -/

section Remainder

variable {x : Float} {m n : ℕ} {q : ℤ}

/-- A finite double is a mantissa of 53 bits at most with an exponent. -/
theorem exists_ofFloat (hx : x.isFinite = true) :
    ∃ negative m q, ofFloat x = .finite negative m q ∧ m < 2 ^ 53 := by
  have hofFloat : ofFloat x = ofUnpacked x.toModel.unpack := (unpack_spec x.toModel).1
  have hdouble := isDouble_unpack hx
  rw [hofFloat]
  generalize x.toModel.unpack = u at hdouble
  cases u with
  | infinity s => exact hdouble.2.elim
  | notANumber => exact hdouble.2.elim
  | zero s => exact ⟨_, _, _, rfl, by decide⟩
  | finite s m e hm => exact ⟨_, _, _, rfl, hdouble.1.1⟩

theorem abs_value (negative : Bool) (m : ℕ) (q : ℤ) :
    |value (.finite negative m q)| = m * 2 ^ q := by
  have hnonneg : (0 : ℚ) ≤ m * 2 ^ q := by positivity
  cases negative
  · rw [value_positive, abs_of_nonneg hnonneg]
  · rw [value_negative, abs_neg, abs_of_nonneg hnonneg]

/-- What is left of a whole magnitude. -/
theorem remainder_whole (hn : 0 < n) (hsmall : n ≤ 512) (hq : 0 ≤ q) :
    let r := Float.ofNat (m * Nat.pow 2 q.toNat % n)
    r.isFinite = true ∧ 0 ≤ worth r ∧ worth r < n ∧ ∃ k : ℕ, (m * 2 ^ q : ℚ) = k * n + worth r := by
  obtain ⟨j, rfl⟩ := Int.eq_ofNat_of_zero_le hq
  have hlt := Nat.mod_lt (m * Nat.pow 2 (j : ℤ).toNat) hn
  obtain ⟨hfinite, hworth⟩ := worth_ofNat (n := m * Nat.pow 2 (j : ℤ).toNat % n) (by omega)
  refine ⟨hfinite, ?_, ?_, m * Nat.pow 2 (j : ℤ).toNat / n, ?_⟩ <;> rw [hworth]
  · positivity
  · exact_mod_cast hlt
  · have hsplit := Nat.div_add_mod' (m * Nat.pow 2 (j : ℤ).toNat) n
    rw [zpow_natCast]
    exact_mod_cast hsplit.symm

/-- A quotient by a power of two is exact. -/
theorem worth_div_two_pow {j : ℕ} (hm : m < 2 ^ 53) (hj : j < 53) :
    (Float.ofNat m / Float.ofNat (2 ^ j)).isFinite = true ∧
      worth (Float.ofNat m / Float.ofNat (2 ^ j)) = m / 2 ^ j := by
  have hdiv := rounded_quotient hm (Nat.two_pow_pos j) (Nat.pow_lt_pow_right one_lt_two hj)
  rw [Nat.cast_pow, Nat.cast_ofNat] at hdiv
  have hm' : |(m : ℚ)| < 2 ^ 53 := by
    rw [Nat.abs_cast]
    exact_mod_cast hm
  have habs : |(m / 2 ^ j : ℚ)| < beyond := by
    rw [abs_div, abs_of_pos (by positivity : (0 : ℚ) < 2 ^ j)]
    exact ((div_le_self (abs_nonneg _) (one_le_pow₀ one_le_two)).trans_lt hm').trans
      two_pow_lt_beyond
  have hquotient := hdiv.isFinite_iff.mpr habs
  refine ⟨hquotient, (hdiv.near hquotient).exact m (-j) (by omega) (by exact_mod_cast hm') ?_⟩
  rw [zpow_neg, zpow_natCast, div_eq_mul_inv, Int.cast_natCast]

/-- What is left of a magnitude with a fraction: it takes no more bits than the magnitude. -/
theorem remainder_fraction (hm : m < 2 ^ 53) (hn : 0 < n) (hq : q < 0)
    (hlarge : (n : ℚ) ≤ m * 2 ^ q) :
    let r := Float.ofNat (m % (n * Nat.pow 2 (-q).toNat)) / Float.ofNat (Nat.pow 2 (-q).toNat)
    r.isFinite = true ∧ 0 ≤ worth r ∧ worth r < n ∧ ∃ k : ℕ, (m * 2 ^ q : ℚ) = k * n + worth r := by
  obtain ⟨j, hj⟩ := Int.eq_ofNat_of_zero_le (neg_nonneg.mpr hq.le)
  obtain rfl : q = -j := neg_eq_iff_eq_neg.mp hj
  have hnat : (-(-(j : ℤ))).toNat = j := by omega
  have hpow : Nat.pow 2 j = 2 ^ j := rfl
  rw [hnat, hpow]
  have hpos : (0 : ℚ) < 2 ^ j := by positivity
  rw [zpow_neg, zpow_natCast, ← div_eq_mul_inv] at hlarge ⊢
  -- a magnitude of at least one has no more than 52 bits behind the point
  have hbits : 2 ^ j < 2 ^ 53 := by
    have hone : (1 : ℚ) ≤ n := by exact_mod_cast hn
    have hle := (le_div_iff₀ hpos).mp (hone.trans hlarge)
    rw [one_mul] at hle
    have hle : 2 ^ j ≤ m := by exact_mod_cast hle
    omega
  have hlt := Nat.mod_lt m (Nat.mul_pos hn (Nat.two_pow_pos j))
  have hsplit := Nat.div_add_mod' m (n * 2 ^ j)
  obtain ⟨hfinite, hworth⟩ := worth_div_two_pow (m := m % (n * 2 ^ j))
    ((Nat.mod_le _ _).trans_lt hm) ((Nat.pow_lt_pow_iff_right one_lt_two).mp hbits)
  refine ⟨hfinite, ?_, ?_, m / (n * 2 ^ j), ?_⟩ <;> rw [hworth]
  · positivity
  · rw [div_lt_iff₀ hpos]
    exact_mod_cast hlt
  · have hsplit : (m : ℚ) = (m / (n * 2 ^ j) : ℕ) * (n * 2 ^ j) + (m % (n * 2 ^ j) : ℕ) := by
      exact_mod_cast hsplit.symm
    rw [div_eq_iff hpos.ne', add_mul, div_mul_cancel₀ _ hpos.ne', mul_assoc]
    exact hsplit

/-- **What is left after whole multiples is exact**, and has the sign of the dividend. -/
theorem remainder_spec (hx : x.isFinite = true) (hn : 0 < n) (hsmall : n ≤ 512) :
    (remainder x n).isFinite = true ∧ |worth (remainder x n)| < n ∧
      (∃ k : ℤ, worth x = k * n + worth (remainder x n)) ∧
      0 ≤ worth x * worth (remainder x n) ∧ (|worth x| < n → remainder x n = x) := by
  obtain ⟨negative, m, q, hofFloat, hm⟩ := exists_ofFloat hx
  obtain ⟨habs, hworth⟩ := worth_abs hx
  obtain ⟨hn', hworth'⟩ := worth_ofNat (n := n) (by omega)
  have hless : x.abs < Float.ofNat n ↔ |worth x| < n := by
    rw [lt_iff habs hn', hworth, hworth']
  rw [remainder, hofFloat]
  dsimp only
  -- what is less than one multiple is left as it is, a zero with its sign
  by_cases h : |worth x| < n
  · rw [if_pos (hless.mpr h)]
    exact ⟨hx, h, ⟨0, by simp⟩, mul_self_nonneg _, fun _ => rfl⟩
  rw [if_neg (mt hless.mp h)]
  have hlarge : (n : ℚ) ≤ m * 2 ^ q := by
    rw [← abs_value negative m q, ← hofFloat]
    exact not_lt.mp h
  have hleft : let r := if 0 ≤ q then Float.ofNat (m * Nat.pow 2 q.toNat % n)
        else Float.ofNat (m % (n * Nat.pow 2 (-q).toNat)) / Float.ofNat (Nat.pow 2 (-q).toNat)
      r.isFinite = true ∧ 0 ≤ worth r ∧ worth r < n ∧
        ∃ k : ℕ, (m * 2 ^ q : ℚ) = k * n + worth r := by
    dsimp only
    split_ifs with hq
    · exact remainder_whole hn hsmall hq
    · exact remainder_fraction hm hn (not_le.mp hq) hlarge
  generalize (if 0 ≤ q then Float.ofNat (m * Nat.pow 2 q.toNat % n)
    else Float.ofNat (m % (n * Nat.pow 2 (-q).toNat)) / Float.ofNat (Nat.pow 2 (-q).toNat)) = r
    at hleft ⊢
  obtain ⟨hr, hnonneg, hlt, k, hk⟩ := hleft
  have hvalue : worth x = value (.finite negative m q) := congrArg value hofFloat
  rw [hvalue]
  have hmagnitude : (0 : ℚ) ≤ m * 2 ^ q := by positivity
  cases negative
  · rw [if_neg Bool.false_ne_true]
    refine ⟨hr, abs_lt.mpr ⟨by linarith, hlt⟩, ⟨k, ?_⟩, ?_, fun hlt' => absurd (hvalue ▸ hlt') h⟩
    · rw [value_positive, hk, Int.cast_natCast]
    · rw [value_positive]
      exact mul_nonneg hmagnitude hnonneg
  · obtain ⟨hneg, hworth⟩ := worth_neg hr
    rw [if_pos rfl, hworth]
    refine ⟨hneg, abs_lt.mpr ⟨by linarith, by linarith⟩, ⟨-k, ?_⟩, ?_,
      fun hlt' => absurd (hvalue ▸ hlt') h⟩
    · rw [value_negative, hk]
      push_cast
      ring
    · rw [value_negative, neg_mul_neg]
      exact mul_nonneg hmagnitude hnonneg

end Remainder

end Binary64

/-! ## Angles -/

open Binary64

variable {x : Float}

theorem worth_zero : (0.0 : Float).isFinite = true ∧ worth 0.0 = 0 :=
  ⟨by decide +kernel, (worth_of_sameValue (n := 0) (by decide +kernel)).trans Nat.cast_zero⟩

/-- What is left after whole turns is exact, and a zero that is left has no sign. -/
theorem turnRemainder_spec (hx : x.isFinite = true) :
    (turnRemainder x).isFinite = true ∧
      worth (turnRemainder x) = worth (Binary64.remainder x 360) := by
  obtain ⟨hr, -⟩ := remainder_spec hx (n := 360) (by decide) (by decide)
  rw [turnRemainder]
  split_ifs with h
  · rw [beq_iff hr worth_zero.1, worth_zero.2] at h
    exact ⟨worth_zero.1, worth_zero.2.trans h.symm⟩
  · exact ⟨hr, rfl⟩

/-- A turn is added to an angle below zero. -/
theorem worth_add_turn (hx : x.isFinite = true) (hlow : -360 < worth x) :
    (x + Float.ofNat 360).isFinite = true ∧ 0 ≤ worth (x + Float.ofNat 360) := by
  obtain ⟨hturn, hworth⟩ := worth_ofNat (n := 360) (by decide)
  obtain ⟨hfinite, hnear⟩ := isFinite_add hx hturn (abs_worth_ofNat_le (by decide))
  rw [hworth, Nat.cast_ofNat] at hnear
  exact ⟨hfinite, hnear.nonneg (by linarith)⟩

theorem wrap_eq (x : Float) :
    Reckoning.double.wrap x =
      let r := turnRemainder x
      let r := if r < Float.ofNat 0 then r + Float.ofNat 360 else r
      if Float.ofNat 360 ≤ r then Float.ofNat 0 else r := by
  simp only [Reckoning.wrap, Reckoning.double, decide_eq_true_eq]

/-- **An angle within one turn is at least zero and less than a turn.** -/
theorem wrap_spec (hx : x.isFinite = true) :
    (Reckoning.double.wrap x).isFinite = true ∧ 0 ≤ worth (Reckoning.double.wrap x) ∧
      worth (Reckoning.double.wrap x) < 360 := by
  obtain ⟨hr, hworth⟩ := turnRemainder_spec hx
  obtain ⟨-, habs, -⟩ := remainder_spec hx (n := 360) (by decide) (by decide)
  rw [← hworth, Nat.cast_ofNat, abs_lt] at habs
  obtain ⟨hzero, hzero'⟩ := worth_ofNat (n := 0) (by decide)
  obtain ⟨hturn, hturn'⟩ := worth_ofNat (n := 360) (by decide)
  rw [wrap_eq]
  generalize turnRemainder x = r at hr habs
  dsimp only
  have hnonneg : (if r < Float.ofNat 0 then r + Float.ofNat 360 else r).isFinite = true ∧
      0 ≤ worth (if r < Float.ofNat 0 then r + Float.ofNat 360 else r) := by
    split_ifs with h
    · exact worth_add_turn hr habs.1
    · rw [lt_iff hr hzero, hzero', Nat.cast_zero, not_lt] at h
      exact ⟨hr, h⟩
  generalize (if r < Float.ofNat 0 then r + Float.ofNat 360 else r) = r at hnonneg
  obtain ⟨hr, hnonneg⟩ := hnonneg
  split_ifs with h
  · rw [hzero', Nat.cast_zero]
    exact ⟨hzero, le_rfl, by norm_num⟩
  · rw [le_iff hturn hr, hturn', Nat.cast_ofNat, not_le] at h
    exact ⟨hr, hnonneg, h⟩

/-- Nothing is added to what is within one turn already, or taken from it. -/
theorem wrap_eq_turnRemainder (hx : x.isFinite = true) (hlow : 0 ≤ worth x)
    (hhigh : worth x < 360) :
    Reckoning.double.wrap x = turnRemainder x ∧ Binary64.remainder x 360 = x := by
  obtain ⟨hr, hworth⟩ := turnRemainder_spec hx
  obtain ⟨-, -, -, -, hsame⟩ := remainder_spec hx (n := 360) (by decide) (by decide)
  have hsame := hsame (by rwa [abs_of_nonneg hlow, Nat.cast_ofNat])
  rw [hsame] at hworth
  obtain ⟨hzero, hzero'⟩ := worth_ofNat (n := 0) (by decide)
  obtain ⟨hturn, hturn'⟩ := worth_ofNat (n := 360) (by decide)
  have hnonneg : ¬turnRemainder x < Float.ofNat 0 := by
    rw [lt_iff hr hzero, hzero', Nat.cast_zero, hworth]
    exact not_lt.mpr hlow
  have hless : ¬Float.ofNat 360 ≤ turnRemainder x := by
    rw [le_iff hturn hr, hturn', Nat.cast_ofNat, hworth]
    exact not_le.mpr hhigh
  rw [wrap_eq]
  dsimp only
  rw [if_neg hnonneg, if_neg hless]
  exact ⟨rfl, hsame⟩

/-- What is within one turn already keeps what it is worth. -/
theorem worth_wrap (hx : x.isFinite = true) (hlow : 0 ≤ worth x) (hhigh : worth x < 360) :
    worth (Reckoning.double.wrap x) = worth x := by
  obtain ⟨hwrap, hsame⟩ := wrap_eq_turnRemainder hx hlow hhigh
  rw [hwrap, (turnRemainder_spec hx).2, hsame]

/-! ## Within one turn twice -/

/-- From −360 up to −180 a double has at most 45 bits behind the point, so that adding a turn is
exact. -/
theorem worth_add_turn_of_le (hx : x.isFinite = true) (hlow : -360 < worth x)
    (hhigh : worth x ≤ -180) : worth (x + Float.ofNat 360) = worth x + 360 := by
  obtain ⟨hturn, hworth⟩ := worth_ofNat (n := 360) (by decide)
  obtain ⟨-, hnear⟩ := isFinite_add hx hturn (abs_worth_ofNat_le (by decide))
  rw [hworth, Nat.cast_ofNat] at hnear
  obtain ⟨negative, m, q, hofFloat, hm⟩ := exists_ofFloat hx
  have hvalue : worth x = -(m * 2 ^ q) := by
    rw [← abs_value negative m q, ← hofFloat]
    change _ = -|worth x|
    rw [abs_of_nonpos (by linarith), neg_neg]
  have hq : -46 < q := by
    have hm : (m : ℚ) ≤ 2 ^ 53 := by exact_mod_cast hm.le
    rw [← zpow_lt_zpow_iff_right₀ (one_lt_two (α := ℚ))]
    refine lt_of_mul_lt_mul_right ?_ (by positivity : (0 : ℚ) ≤ 2 ^ 53)
    calc (2 : ℚ) ^ (-46 : ℤ) * 2 ^ 53 = 128 := by norm_num
      _ < m * 2 ^ q := by linarith
      _ ≤ 2 ^ 53 * 2 ^ q := by gcongr
      _ = 2 ^ q * 2 ^ 53 := mul_comm _ _
  obtain ⟨j, hj⟩ := Int.eq_ofNat_of_zero_le (show 0 ≤ q + 45 by omega)
  obtain rfl : q = j - 45 := by omega
  have hsum : worth x + 360 = (360 * 2 ^ 45 - m * 2 ^ j : ℤ) * 2 ^ (-45 : ℤ) := by
    rw [hvalue, sub_eq_add_neg, zpow_add₀ two_ne_zero, zpow_natCast]
    push_cast
    ring
  refine hnear.exact _ _ (by decide) ?_ hsum
  have hbits : (360 * 2 ^ 45 - m * 2 ^ j : ℤ) = (worth x + 360) * 2 ^ 45 := by
    have hone : (2 : ℚ) ^ (-45 : ℤ) * 2 ^ 45 = 1 := by norm_num
    rw [hsum, mul_assoc, hone, mul_one]
  rw [hbits, abs_of_nonneg (by nlinarith)]
  nlinarith

/-- A turn that is added to an angle below zero never rounds away. -/
theorem worth_add_turn_pos (hx : x.isFinite = true) (hlow : -360 < worth x)
    (hhigh : worth x < 0) : 0 < worth (x + Float.ofNat 360) := by
  rcases le_or_gt (worth x) (-180) with h | h
  · rw [worth_add_turn_of_le hx hlow h]
    linarith
  · obtain ⟨hturn, hworth⟩ := worth_ofNat (n := 360) (by decide)
    obtain ⟨-, hnear⟩ := isFinite_add hx hturn (abs_worth_ofNat_le (by decide))
    rw [hworth, Nat.cast_ofNat] at hnear
    have hclose := hnear.close 9 (by decide) (by rw [abs_of_pos (by linarith)]; norm_num; linarith)
    have hsmall : (2 : ℚ) ^ (9 - 54 : ℤ) ≤ 1 := by norm_num
    have := neg_le_of_abs_le hclose
    linarith

/-- What is within one turn is not changed, if it is a zero without a sign where it is zero. -/
theorem wrap_of_within (hx : x.isFinite = true) (hlow : 0 ≤ worth x) (hhigh : worth x < 360)
    (hzero : worth x = 0 → x = 0.0) : Reckoning.double.wrap x = x := by
  obtain ⟨hwrap, hsame⟩ := wrap_eq_turnRemainder hx hlow hhigh
  rw [hwrap, turnRemainder, hsame]
  split_ifs with h
  · rw [beq_iff hx worth_zero.1, worth_zero.2] at h
    exact (hzero h).symm
  · rfl

theorem eq_zero_of_turnRemainder (hx : x.isFinite = true) (h : worth (turnRemainder x) = 0) :
    turnRemainder x = 0.0 := by
  obtain ⟨hr, -⟩ := remainder_spec hx (n := 360) (by decide) (by decide)
  rw [turnRemainder] at h ⊢
  split_ifs at h ⊢ with hzero
  · rfl
  · rw [beq_iff hr worth_zero.1, worth_zero.2] at hzero
    exact absurd h hzero

/-- An angle within one turn that is worth nothing is a zero without a sign. -/
theorem eq_zero_of_wrap (hx : x.isFinite = true) (h : worth (Reckoning.double.wrap x) = 0) :
    Reckoning.double.wrap x = 0.0 := by
  obtain ⟨hr, hworth⟩ := turnRemainder_spec hx
  obtain ⟨-, habs, -⟩ := remainder_spec hx (n := 360) (by decide) (by decide)
  rw [← hworth, Nat.cast_ofNat, abs_lt] at habs
  obtain ⟨hzero, hzero'⟩ := worth_ofNat (n := 0) (by decide)
  have hnone : Float.ofNat 0 = 0.0 := by decide +kernel
  rw [wrap_eq] at h ⊢
  dsimp only at h ⊢
  by_cases hneg : turnRemainder x < Float.ofNat 0
  · rw [if_pos hneg] at h ⊢
    rw [lt_iff hr hzero, hzero', Nat.cast_zero] at hneg
    split_ifs at h ⊢
    · exact hnone
    · exact absurd h (worth_add_turn_pos hr habs.1 hneg).ne'
  · rw [if_neg hneg] at h ⊢
    split_ifs at h ⊢
    · exact hnone
    · exact eq_zero_of_turnRemainder hx h

/-- **An angle within one turn stays as it is**, down to its last bit and its sign. -/
theorem wrap_wrap (hx : x.isFinite = true) :
    Reckoning.double.wrap (Reckoning.double.wrap x) = Reckoning.double.wrap x := by
  obtain ⟨hwrap, hlow, hhigh⟩ := wrap_spec hx
  exact wrap_of_within hwrap hlow hhigh (eq_zero_of_wrap hx)

/-! ## What is not finite -/

/-- Of what is not finite nothing is left after whole turns. -/
theorem turnRemainder_of_not_isFinite (hx : x.isFinite = false) : turnRemainder x = 0.0 / 0.0 := by
  have hofFloat : ofFloat x = ofUnpacked x.toModel.unpack := (unpack_spec x.toModel).1
  have hfinite : x.toModel.unpack.isFinite = false := hx
  have hremainder : Binary64.remainder x 360 = 0.0 / 0.0 := by
    rw [Binary64.remainder, hofFloat]
    generalize x.toModel.unpack = u at hfinite
    cases u with
    | infinity s => rfl
    | notANumber => rfl
    | zero s => cases hfinite
    | finite s m e hm => cases hfinite
  rw [turnRemainder, hremainder]
  exact if_neg (by decide +kernel)

/-- Of what is not finite no angle comes out. -/
theorem wrap_of_not_isFinite (hx : x.isFinite = false) :
    (Reckoning.double.wrap x).isNaN = true := by
  rw [wrap_eq, turnRemainder_of_not_isFinite hx]
  decide +kernel

end MetesBounds
