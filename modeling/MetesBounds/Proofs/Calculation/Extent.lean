import Mathlib
import MetesBounds.Proofs.Calculation.Rounding

/-!
# `Calculation/Extent` — whole numbers that are doubles

A whole number is made a double by rounding it, and of one that is too large there is none. Rounding
may carry a number up to the next power of two and no further, so whole numbers of up to a thousand
bits are doubles, whatever their digits. `Binary64.UpTo` is what is carried along: finite, with a
last place that is worth no more than some power of two.

Main statement: `doubleOfInt_eq_ok`.
-/

set_option autoImplicit false

namespace MetesBounds

namespace Binary64

open Float.Model Float.Model.UnpackedFloat

/-- Whether something unpacked is finite, and its last place is worth no more than a power of two. -/
def UpTo (k : Int) : UnpackedFloat → Prop
  | .zero _ => True
  | .finite _ _ e _ => e ≤ k
  | _ => False

theorem UpTo.isFinite {k : Int} {u : UnpackedFloat} (h : UpTo k u) : u.isFinite = true := by
  cases u with
  | zero s => rfl
  | finite s m e hm => rfl
  | _ => exact h.elim

/-! ## Rounding -/

theorem rounded_le_succ (em : ExtendedMantissa) : em.roundedMantissa ≤ em.mantissa + 1 := by
  rcases em with ⟨m, r, s⟩
  cases r <;> cases s <;>
    simp [ExtendedMantissa.roundedMantissa, ExtendedMantissa.accuracy, Accuracy.roundToNearestEven]
  omega

/-- Bits that are shifted out are not missed. -/
theorem div_two_pow_lt {m b : Nat} (h : m < 2 ^ b) (k : Nat) : m / 2 ^ k < 2 ^ (b - k) := by
  rw [Nat.div_lt_iff_lt_mul (Nat.two_pow_pos k), ← Nat.pow_add]
  exact Nat.lt_of_lt_of_le h (Nat.pow_le_pow_right (by decide) (by omega))

theorem log2_le {m b : Nat} (h : m ≤ 2 ^ b) : m.log2 ≤ b := by
  rcases Nat.eq_zero_or_pos m with rfl | hm
  · exact Nat.zero_le b
  · refine Nat.le_of_lt_succ ((Nat.log2_lt (Nat.ne_of_gt hm)).mpr ?_)
    exact Nat.lt_of_le_of_lt h (Nat.pow_lt_pow_right (by decide) (Nat.lt_succ_self b))

section Shift

variable {m b : Nat} {e k : Int}

/-- A mantissa loses as many bits as its last place gains. -/
theorem exists_shift (hm : m < 2 ^ b) (e : Int) :
    let shifted := shiftToTargetExponent Format.binary64 m e .exact
    ∃ n : Nat, shifted.1.mantissa < 2 ^ (b - n) ∧ shifted.2 = e + n := by
  simp only [shiftToTargetExponent, shiftToExponent, shift_mantissa,
    ExtendedMantissa.ofMantissaAndAccuracy, Nat.shiftRight_eq_div_pow]
  exact ⟨_, div_two_pow_lt hm _, rfl⟩

/-- The last place is worth no more than it was, or than it has to be for the first bit. -/
theorem shift_exponent_le (hm : m.log2 ≤ b) (he : e ≤ k) (hb : e + b ≤ k + 52) (hk : -1074 ≤ k) :
    (shiftToTargetExponent Format.binary64 m e .exact).2 ≤ k := by
  simp only [shiftToTargetExponent, shiftToExponent, targetExponent_eq]
  omega

theorem upTo_round (s : UnpackedFloat.Sign) (hm : m < 2 ^ b) (he : e ≤ k) (hb : e + b ≤ k + 52)
    (hk : -1074 ≤ k) : UpTo k (roundWithAccuracy Format.binary64 s m e .exact) := by
  obtain ⟨n, hlt, hshift⟩ := exists_shift hm e
  have hle := shift_exponent_le (log2_le (Nat.le_of_lt hm)) he hb hk
  unfold roundWithAccuracy
  generalize shiftToTargetExponent Format.binary64 m e .exact = first at hlt hshift hle
  obtain ⟨em, f⟩ := first
  dsimp only at hlt hshift hle ⊢
  -- rounding may have made the mantissa one bit too long, so it is shifted once more
  have hround : em.roundedMantissa.log2 ≤ b - n :=
    log2_le (Nat.le_trans (rounded_le_succ em) hlt)
  have hlast := shift_exponent_le (e := f) hround hle (by omega) hk
  split
  · trivial
  · exact hlast

/-- The same where a number is first given as many bits as there are in a double. -/
theorem upTo_wholeRound (s : UnpackedFloat.Sign) (hm : m < 2 ^ b) (he : e ≤ k)
    (hb : e + b ≤ k + 52) (hk : -1074 ≤ k) :
    UpTo k (UnpackedFloat.round Format.binary64 s m e) := by
  unfold UnpackedFloat.round decreaseExponent
  dsimp only
  generalize (e - Format.binary64.targetExponent (totalExponent m e)).toNat = n
  have hmn : m <<< n < 2 ^ (b + n) := by
    rw [Nat.shiftLeft_eq, Nat.pow_add]
    exact Nat.mul_lt_mul_of_pos_right hm (Nat.two_pow_pos n)
  exact upTo_round s hmn (by omega) (by omega) hk

end Shift

/-! ## Packing and unpacking -/

variable {k : Int}

/-- What is unpacked is finite, unless the exponent is the largest, and then its last place is worth
what the exponent says. -/
theorem upTo_unpack {b : BitVec 64} (hx : (@unpackExponent Format.binary64 b).toNat < 2047)
    (hk : -1074 ≤ k) (hxk : (@unpackExponent Format.binary64 b).toNat ≤ k + 1075) :
    UpTo k (UnpackedFloat.unpack Format.binary64 b) := by
  have hbias : (Format.binary64.exponentBias : Int) = 1023 := rfl
  have hbits : (Format.binary64.mantissaBitsWithoutImplicit : Int) = 52 := rfl
  have hones : @unpackExponent Format.binary64 b ≠ -1#11 := by
    intro h
    rw [h] at hx
    exact absurd hx (by decide)
  delta UnpackedFloat.unpack
  dsimp only
  rw [if_neg hones]
  by_cases hzero : @unpackExponent Format.binary64 b = 0#11
  · rw [if_pos hzero]
    by_cases hm : @unpackMantissa Format.binary64 b = 0#52
    · rw [dif_pos hm]
      trivial
    · rw [dif_neg hm, hzero, hbias]
      exact hk
  · rw [if_neg hzero, hbias]
    change _ ≤ k
    omega

theorem upTo_packComponents (s : UnpackedFloat.Sign) {x : BitVec 11} (m : BitVec 52)
    (hx : x.toNat < 2047) (hk : -1074 ≤ k) (hxk : x.toNat ≤ k + 1075) :
    UpTo k (UnpackedFloat.unpack Format.binary64 (packComponents Format.binary64 s x m)) := by
  have h := @upTo_unpack k (packComponents Format.binary64 s x m)
  rw [unpackExponent_packComponents] at h
  exact h hx hk hxk

/-- What is finite stays so when it is packed, up to the largest exponent. -/
theorem upTo_pack {u : UnpackedFloat} (hu : UpTo k u) (hk : -1074 ≤ k) (hmost : k ≤ 971) :
    UpTo k (pack u).unpack := by
  change UpTo k (UnpackedFloat.unpack Format.binary64 (UnpackedFloat.pack Format.binary64 u))
  cases u with
  | zero s => exact upTo_packComponents s 0#52 (by decide) hk (by change (0 : Int) ≤ _; omega)
  | infinity s => exact hu.elim
  | notANumber => exact hu.elim
  | finite s m e hp =>
    have he : e ≤ k := hu
    have hbias : (Format.binary64.exponentBias : Int) = 1023 := rfl
    have hbits : (Format.binary64.mantissaBitsWithoutImplicit : Int) = 52 := rfl
    have hfield : 2 ^ Format.binary64.exponentBits = 2048 := rfl
    delta UnpackedFloat.pack
    dsimp only
    split
    · next hlarge =>
      rw [hfield] at hlarge
      omega
    · have hx : (BitVec.ofNat 11 (e + 1023 + 52).toNat).toNat = (e + 1023 + 52).toNat := by
        rw [BitVec.toNat_ofNat, Nat.mod_eq_of_lt (by omega)]
      split
      · refine upTo_packComponents s _ ?_ hk ?_
        · change (BitVec.ofNat 11 (e + 1023 + 52).toNat).toNat < 2047
          omega
        · change ((BitVec.ofNat 11 (e + 1023 + 52).toNat).toNat : Int) ≤ k + 1075
          omega
      · exact upTo_packComponents s _ (by decide) hk (by change (0 : Int) ≤ _; omega)

/-! ## Whole numbers -/

theorem mul_finite (s t : UnpackedFloat.Sign) {m n : Nat} {e f : Int} (hm : 0 < m) (hn : 0 < n) :
    UnpackedFloat.mul Format.binary64 (.finite s m e hm) (.finite t n f hn) =
      roundWithAccuracy Format.binary64 (s * t) (m * n) (e + f) .exact := rfl

theorem upTo_mul {x y : Float} {i j : Int} (hx : UpTo i x.toModel.unpack)
    (hy : UpTo j y.toModel.unpack) (hij : i + j + 54 ≤ k) (hk : -1074 ≤ k) (hmost : k ≤ 971) :
    UpTo k (x * y).toModel.unpack := by
  change UpTo k (pack (UnpackedFloat.mul Format.binary64 x.toModel.unpack y.toModel.unpack)).unpack
  refine upTo_pack ?_ hk hmost
  have hfx := isZero_or_fits x.toModel.toBits.toBitVec
  have hfy := isZero_or_fits y.toModel.toBits.toBitVec
  change (_ ∧ _ ∧ IsZero x.toModel.unpack) ∨ Fits x.toModel.unpack at hfx
  change (_ ∧ _ ∧ IsZero y.toModel.unpack) ∨ Fits y.toModel.unpack at hfy
  generalize x.toModel.unpack = a at hx hfx
  generalize y.toModel.unpack = b at hy hfy
  cases a with
  | zero s =>
    cases b with
    | zero t => trivial
    | finite t n f hn => trivial
    | _ => exact hy.elim
  | finite s m e hm =>
    cases b with
    | zero t => trivial
    | finite t n f hn =>
      have he : e ≤ i := hx
      have hf : f ≤ j := hy
      have hm : m < 2 ^ 53 := (hfx.resolve_left fun h => h.2.2).1
      have hn : n < 2 ^ 53 := (hfy.resolve_left fun h => h.2.2).1
      have hmn : m * n < 2 ^ 106 := calc
        m * n < 2 ^ 53 * 2 ^ 53 := Nat.mul_lt_mul'' hm hn
        _ = 2 ^ 106 := by rw [← Nat.pow_add]
      rw [mul_finite]
      exact upTo_round _ hmn (by omega) (by omega) hk
    | _ => exact hy.elim
  | _ => exact hx.elim

theorem upTo_toFloat (n : UInt64) : UpTo 12 n.toFloat.toModel.unpack := by
  change UpTo 12 (pack (UnpackedFloat.ofUInt64 Format.binary64 n)).unpack
  refine upTo_pack ?_ (by decide) (by decide)
  rw [UnpackedFloat.ofUInt64, UnpackedFloat.ofNat, UnpackedFloat.ofInt, UnpackedFloat.normalize]
  split
  · next hlt =>
    have hneg : (n.toNat : Int) < 0 := Int.compare_eq_lt.mp hlt
    omega
  · trivial
  · have hn : (n.toNat : Int).toNat < 2 ^ 64 := UInt64.toNat_lt n
    exact upTo_wholeRound .positive hn (by decide) (by decide) (by decide)

/-- Scaling by nothing is multiplying by one. -/
theorem upTo_powerOfTen_zero :
    UpTo (-52) (Float.exactlyRepresentablePowersOfTen[0]).toModel.unpack := by
  refine upTo_unpack ?_ (by decide) ?_
  · decide +kernel
  · decide +kernel

theorem upTo_ofScientific {n b : Nat} (h : n < 2 ^ b) (hb : b ≤ 1000) :
    UpTo 971 (UnpackedFloat.ofScientific Format.binary64 n 0) := by
  have hbits : Format.binary64.mantissaBits = 53 := rfl
  unfold UnpackedFloat.ofScientific
  split
  · trivial
  · have hlow : ¬(0 : Int) < -(2 ^ Format.binary64.exponentBits + (n.log2 : Int)) := by
      have hfield : (2 : Int) ^ Format.binary64.exponentBits = 2048 := rfl
      omega
    rw [if_neg (by decide), if_neg hlow, if_pos (by decide), mul_finite]
    have hm : n <<< Format.binary64.mantissaBits * 10 ^ Int.toNat 0 < 2 ^ (b + 53) := by
      rw [hbits, Int.toNat_zero, Nat.pow_zero, Nat.mul_one, Nat.shiftLeft_eq, Nat.pow_add]
      exact Nat.mul_lt_mul_of_pos_right h (Nat.two_pow_pos 53)
    have he : -(Format.binary64.mantissaBits : Int) + 0 = -53 := by rw [hbits]; rfl
    rw [he]
    generalize n <<< Format.binary64.mantissaBits * 10 ^ Int.toNat 0 = m at hm
    exact upTo_round _ hm (by decide) (by omega) (by decide)

/-- A whole number of up to a thousand bits is finite as a double. -/
theorem isFinite_ofNat {n b : Nat} (h : n < 2 ^ b) (hb : b ≤ 1000) :
    (Float.ofNat n).isFinite = true := by
  have hupTo : UpTo 971 (Float.ofScientific n false 0).toModel.unpack := by
    rw [Float.ofScientific]
    split
    · exact upTo_mul (upTo_toFloat _) upTo_powerOfTen_zero (by decide) (by decide) (by decide)
    · exact upTo_pack (upTo_ofScientific h hb) (by decide) (by decide)
  exact hupTo.isFinite

end Binary64

/-- **A whole number of up to a thousand bits is a double.** -/
theorem doubleOfInt_eq_ok {n b : Nat} (h : n < 2 ^ b) (hb : b ≤ 1000) :
    doubleOfInt n = .ok (Float.ofNat n) := by
  have hofInt : Float.ofInt n = Float.ofNat n := rfl
  rw [doubleOfInt, Binary64.ofInt?, hofInt]
  rw [if_pos (Binary64.isFinite_ofNat h hb)]

end MetesBounds
