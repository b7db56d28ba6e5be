import Mathlib
import MetesBounds.Proofs.Calculation.Extent

/-!
# `Calculation/Worth` — what a double is worth

Every finite double is worth a rational number, and nothing is lost when it is unpacked and packed
again, as long as its mantissa has all the bits that its exponent leaves room for. The doubles that
come out of calculations are of this form (`Binary64.Canonical`), and among these the larger of two
is the one that is worth more.

Main statements: `Binary64.worth_eq`, `Binary64.unpack_pack` and `Binary64.compare_eq`.
-/

set_option autoImplicit false

namespace MetesBounds

namespace Binary64

/-- The rational number that a finite double stands for; anything else stands for none and is
worth nothing. -/
def value : Binary64 → ℚ
  | .finite negative m q => (if negative then -1 else 1) * (m * 2 ^ q)
  | _ => 0

/-- What a double is worth. -/
def worth (x : Float) : ℚ := (ofFloat x).value

@[simp]
theorem value_positive (m : ℕ) (q : ℤ) : value (.finite false m q) = m * 2 ^ q := one_mul _

@[simp]
theorem value_negative (m : ℕ) (q : ℤ) : value (.finite true m q) = -(m * 2 ^ q) := neg_one_mul _

section Value

variable {x : Float} {m n : ℕ} {q : ℤ}

/-- A numerator and a denominator are what a mantissa and an exponent are worth. -/
theorem ratio_eq (m : ℕ) (q : ℤ) : ((ratio m q).1 / (ratio m q).2 : ℚ) = m * 2 ^ q := by
  have hpow (k : ℕ) : Nat.pow 2 k = 2 ^ k := rfl
  rw [ratio, hpow, hpow]
  rcases Int.le_total 0 q with h | h
  · obtain ⟨j, rfl⟩ := Int.eq_ofNat_of_zero_le h
    simp
  · obtain ⟨j, hj⟩ := Int.eq_ofNat_of_zero_le (neg_nonneg.mpr h)
    obtain rfl : q = -j := neg_eq_iff_eq_neg.mp hj
    simp [div_eq_mul_inv]

/-- A double of the same value as a whole number is worth it. -/
theorem worth_of_sameValue (h : sameValue (ofFloat x) (.finite false n 0) = true) :
    worth x = n := by
  rw [worth]
  cases hx : ofFloat x with
  | notANumber =>
    rw [hx] at h
    cases h
  | infinite s =>
    rw [hx] at h
    cases h
  | finite s m q =>
    rw [hx, sameValue, Bool.and_eq_true, beq_iff_eq, Bool.or_eq_true, beq_iff_eq, beq_iff_eq] at h
    obtain ⟨hratio, hsign⟩ := h
    have hpos (m : ℕ) (q : ℤ) : ((ratio m q).2 : ℚ) ≠ 0 :=
      Nat.cast_ne_zero.mpr (Nat.two_pow_pos _).ne'
    have hsame : (m * 2 ^ q : ℚ) = n * 2 ^ (0 : ℤ) := by
      rw [← ratio_eq, ← ratio_eq, div_eq_div_iff (hpos m q) (hpos n 0)]
      exact_mod_cast hratio
    rw [zpow_zero, mul_one] at hsame
    rw [value, hsame]
    rcases hsign with rfl | rfl
    · exact one_mul _
    · rw [Nat.cast_zero, zero_mul] at hsame
      rw [← hsame, mul_zero]

end Value

open Float.Model Float.Model.UnpackedFloat

/-! ## Bits -/

section Bits

variable (b : BitVec 64)

theorem toNat_unpackExponent :
    (@unpackExponent Format.binary64 b).toNat = b.toNat / 0x10000000000000 % 2048 := by
  rw [unpackExponent, BitVec.toNat_cast, BitVec.extractLsb_toNat, Nat.shiftRight_eq_div_pow]
  rfl

theorem toNat_unpackMantissa :
    (@unpackMantissa Format.binary64 b).toNat = b.toNat % 0x10000000000000 := by
  rw [unpackMantissa, BitVec.toNat_cast, BitVec.extractLsb_toNat]
  rfl

theorem unpackSign_eq :
    @unpackSign Format.binary64 b = 0#1 ↔ b.toNat < 0x8000000000000000 := by
  rw [← BitVec.toNat_inj, unpackSign, BitVec.toNat_cast, BitVec.extractLsb_toNat,
    Nat.shiftRight_eq_div_pow]
  have hb : b.toNat < 2 ^ 64 := b.isLt
  change b.toNat / 2 ^ 63 % 2 = 0 ↔ _
  omega

end Bits

theorem unpackSign_packComponents {spec : Format} (s : UnpackedFloat.Sign)
    (x : BitVec spec.exponentBits) (m : BitVec spec.mantissaBitsWithoutImplicit) :
    unpackSign (packComponents spec s x m) = s.toBitVec := by
  refine BitVec.eq_of_getLsbD_eq fun i hi => ?_
  have hzero : i = 0 := by omega
  subst hzero
  simp [unpackSign, packComponents, BitVec.getLsbD_append, BitVec.getElem_append]

theorem ofBitVec_toBitVec (s : UnpackedFloat.Sign) : Sign.ofBitVec s.toBitVec = s := by
  cases s <;> rfl

/-- The bit that is not written stands in front of the others. -/
theorem toNat_append_one (m : BitVec 52) : (1#1 ++ m).toNat = m.toNat + 0x10000000000000 := by
  rw [BitVec.toNat_append, ← Nat.shiftLeft_add_eq_or_of_lt m.isLt]
  change 1 <<< 52 + _ = _
  rw [Nat.add_comm]
  rfl

/-! ## Unpacking -/

/-- Whether a sign is that of the negative doubles. -/
def isMinus : UnpackedFloat.Sign → Bool
  | .negative => true
  | .positive => false

/-- The meaning of something unpacked. -/
def ofUnpacked : UnpackedFloat → Binary64
  | .notANumber => .notANumber
  | .infinity s => .infinite (isMinus s)
  | .zero s => .finite (isMinus s) 0 (-1074)
  | .finite s m e _ => .finite (isMinus s) m e

/-- Whether something unpacked, where it is finite, is written as doubles are: with 53 bits, fewer
only at the smallest exponent. -/
def Canonical : UnpackedFloat → Prop
  | .finite _ m e _ => m < 0x20000000000000 ∧ -1074 ≤ e ∧ (0x10000000000000 ≤ m ∨ e = -1074)
  | _ => True

theorem isMinus_ofBitVec (b : BitVec 64) :
    isMinus (Sign.ofBitVec (@unpackSign Format.binary64 b)) =
      decide (0x8000000000000000 ≤ b.toNat) := by
  rw [Sign.ofBitVec]
  by_cases h : @unpackSign Format.binary64 b = 0#1
  · rw [if_pos h]
    rw [unpackSign_eq] at h
    exact (decide_eq_false (by omega)).symm
  · rw [if_neg h]
    rw [unpackSign_eq] at h
    exact (decide_eq_true (by omega)).symm

/-- What is unpacked is what the bits say, and it is written as doubles are. -/
theorem unpack_spec (v : Float.Model) :
    ofFloat ⟨v⟩ = ofUnpacked v.unpack ∧ Canonical v.unpack ∧
      (v.unpack.isFinite = true → UpTo 971 v.unpack) := by
  have hbias : (Format.binary64.exponentBias : Int) = 1023 := rfl
  have hbits : (Format.binary64.mantissaBitsWithoutImplicit : Int) = 52 := rfl
  have hx := toNat_unpackExponent v.toBits.toBitVec
  have hm := toNat_unpackMantissa v.toBits.toBitVec
  have hs := isMinus_ofBitVec v.toBits.toBitVec
  have hofFloat : ofFloat ⟨v⟩ =
      if (@unpackExponent Format.binary64 v.toBits.toBitVec).toNat = 2047 then
        (if (@unpackMantissa Format.binary64 v.toBits.toBitVec).toNat = 0 then
          .infinite (isMinus (Sign.ofBitVec (@unpackSign Format.binary64 v.toBits.toBitVec)))
        else .notANumber)
      else if (@unpackExponent Format.binary64 v.toBits.toBitVec).toNat = 0 then
        .finite (isMinus (Sign.ofBitVec (@unpackSign Format.binary64 v.toBits.toBitVec)))
          (@unpackMantissa Format.binary64 v.toBits.toBitVec).toNat (-1074)
      else
        .finite (isMinus (Sign.ofBitVec (@unpackSign Format.binary64 v.toBits.toBitVec)))
          ((@unpackMantissa Format.binary64 v.toBits.toBitVec).toNat + 0x10000000000000)
          (((@unpackExponent Format.binary64 v.toBits.toBitVec).toNat : Int) - 1075) := by
    rw [hx, hm, hs]
    rfl
  rw [hofFloat, Float.Model.unpack]
  generalize v.toBits.toBitVec = b
  have hlt : (@unpackExponent Format.binary64 b).toNat < 2048 := BitVec.isLt _
  have hlt' : (@unpackMantissa Format.binary64 b).toNat < 0x10000000000000 := BitVec.isLt _
  have hones : @unpackExponent Format.binary64 b = -1#11 ↔
      (@unpackExponent Format.binary64 b).toNat = 2047 := by
    rw [← BitVec.toNat_inj]
    rfl
  have hzero : @unpackExponent Format.binary64 b = 0#11 ↔
      (@unpackExponent Format.binary64 b).toNat = 0 := by
    rw [← BitVec.toNat_inj]
    rfl
  have hempty : @unpackMantissa Format.binary64 b = 0#52 ↔
      (@unpackMantissa Format.binary64 b).toNat = 0 := by
    rw [← BitVec.toNat_inj]
    rfl
  delta UnpackedFloat.unpack
  dsimp only
  by_cases h : (@unpackExponent Format.binary64 b).toNat = 2047
  · rw [if_pos h, if_pos (hones.mpr h)]
    by_cases h' : (@unpackMantissa Format.binary64 b).toNat = 0
    · rw [if_pos h', if_pos (hempty.mpr h')]
      exact ⟨rfl, trivial, fun h => nomatch h⟩
    · rw [if_neg h', if_neg (mt hempty.mp h')]
      exact ⟨rfl, trivial, fun h => nomatch h⟩
  rw [if_neg h, if_neg (mt hones.mp h)]
  by_cases h₀ : (@unpackExponent Format.binary64 b).toNat = 0
  · rw [if_pos h₀, if_pos (hzero.mpr h₀)]
    by_cases h' : (@unpackMantissa Format.binary64 b).toNat = 0
    · rw [dif_pos (hempty.mpr h'), h']
      exact ⟨rfl, trivial, fun _ => trivial⟩
    · rw [dif_neg (mt hempty.mp h'), h₀, hbias, hbits]
      exact ⟨rfl, ⟨by omega, by decide, .inr rfl⟩, fun _ => by change (_ : Int) ≤ 971; decide⟩
  · rw [if_neg h₀, if_neg (mt hzero.mp h₀), hbias, hbits]
    have hone : (1#1 ++ @unpackMantissa Format.binary64 b).toNat =
        (@unpackMantissa Format.binary64 b).toNat + 0x10000000000000 := toNat_append_one _
    refine ⟨?_, ⟨?_, by omega, .inl ?_⟩, fun _ => ?_⟩
    · rw [ofUnpacked, hone]
      rfl
    · rw [hone]
      omega
    · rw [hone]
      omega
    · change _ ≤ (971 : Int)
      omega

/-- A double is written as doubles are. -/
theorem canonical_unpack (x : Float) : Canonical x.toModel.unpack := (unpack_spec x.toModel).2.1

theorem upTo_of_isFinite {x : Float} (h : x.isFinite = true) : UpTo 971 x.toModel.unpack :=
  (unpack_spec x.toModel).2.2 h

/-- What something unpacked is worth. -/
def amount (u : UnpackedFloat) : ℚ := (ofUnpacked u).value

theorem worth_eq (x : Float) : worth x = amount x.toModel.unpack :=
  congrArg value (unpack_spec x.toModel).1

/-! ## Packing -/

section Packing

variable {u : UnpackedFloat}

theorem finite_congr (s : UnpackedFloat.Sign) {m m' : Nat} {e e' : Int} (hm : 0 < m)
    (h : m = m') (h' : e = e') :
    UnpackedFloat.finite s m e hm = .finite s m' e' (h ▸ hm) := by
  subst h h'
  rfl

/-- A mantissa without the bit that is not written, or with nothing before its first bits. -/
theorem unpack_subnormal (s : UnpackedFloat.Sign) {m : Nat} (hm : 0 < m) (hlt : m < 2 ^ 52) :
    UnpackedFloat.unpack Format.binary64
      (packComponents Format.binary64 s 0#11 (BitVec.ofNat 52 m)) = .finite s m (-1074) hm := by
  have hmod : (BitVec.ofNat 52 m).toNat = m := by
    rw [BitVec.toNat_ofNat, Nat.mod_eq_of_lt hlt]
  have hne : BitVec.ofNat 52 m ≠ 0#52 := by
    intro h
    rw [h] at hmod
    exact Nat.ne_of_lt hm hmod
  delta UnpackedFloat.unpack
  dsimp only
  simp only [unpackExponent_packComponents, unpackMantissa_packComponents,
    unpackSign_packComponents, ofBitVec_toBitVec]
  rw [if_neg (by decide), if_pos trivial, dif_neg hne]
  exact finite_congr s _ hmod rfl

theorem unpack_normal (s : UnpackedFloat.Sign) {m : Nat} {e : Int} (hm : 0 < m)
    (hlow : 2 ^ 52 ≤ m) (hhigh : m < 2 ^ 53) (he : -1074 ≤ e) (hmost : e ≤ 971) :
    UnpackedFloat.unpack Format.binary64
      (packComponents Format.binary64 s (BitVec.ofNat 11 (e + 1075).toNat) (BitVec.ofNat 52 m)) =
        .finite s m e hm := by
  have hone : (1#1 ++ BitVec.ofNat 52 m).toNat = m := by
    rw [toNat_append_one, BitVec.toNat_ofNat]
    omega
  have hx : (BitVec.ofNat 11 (e + 1075).toNat).toNat = (e + 1075).toNat := by
    rw [BitVec.toNat_ofNat, Nat.mod_eq_of_lt (by omega)]
  have hones : BitVec.ofNat 11 (e + 1075).toNat ≠ -1#11 := by
    intro h
    have hfield : (e + 1075).toNat = 2047 := hx.symm.trans (congrArg BitVec.toNat h)
    omega
  have hzero : BitVec.ofNat 11 (e + 1075).toNat ≠ 0#11 := by
    intro h
    have hfield : (e + 1075).toNat = 0 := hx.symm.trans (congrArg BitVec.toNat h)
    omega
  have hbias : (Format.binary64.exponentBias : Int) = 1023 := rfl
  have hbits : (Format.binary64.mantissaBitsWithoutImplicit : Int) = 52 := rfl
  delta UnpackedFloat.unpack
  dsimp only
  simp only [unpackExponent_packComponents, unpackMantissa_packComponents,
    unpackSign_packComponents, ofBitVec_toBitVec]
  rw [if_neg hones, if_neg hzero]
  refine finite_congr s _ hone ?_
  rw [hx, hbias, hbits]
  omega

/-- What is finite and written as doubles are is not changed by packing. -/
theorem unpack_pack (hc : Canonical u) (hu : UpTo 971 u) : (pack u).unpack = u := by
  change UnpackedFloat.unpack Format.binary64 (UnpackedFloat.pack Format.binary64 u) = u
  cases u with
  | zero s => cases s <;> rfl
  | infinity s => exact hu.elim
  | notANumber => exact hu.elim
  | finite s m e hm =>
    obtain ⟨hlt, he, hfull⟩ := hc
    have hmost : e ≤ 971 := hu
    have hbias : (Format.binary64.exponentBias : Int) = 1023 := rfl
    have hbits : (Format.binary64.mantissaBitsWithoutImplicit : Int) = 52 := rfl
    have hfield : 2 ^ Format.binary64.exponentBits = 2048 := rfl
    have hall : Format.binary64.mantissaBits = 53 := rfl
    have hlog : m.log2 + 1 = 53 ↔ 2 ^ 52 ≤ m := by
      rw [← Nat.le_log2 (Nat.ne_of_gt hm)]
      have := (Nat.log2_lt (Nat.ne_of_gt hm) (k := 53)).mpr hlt
      omega
    delta UnpackedFloat.pack
    dsimp only
    rw [hbias, hbits, hfield, hall, if_neg (by omega)]
    by_cases h : 2 ^ 52 ≤ m
    · rw [if_pos (hlog.mpr h)]
      have hadd : e + 1023 + 52 = e + 1075 := by omega
      rw [hadd]
      exact unpack_normal s hm h hlt he hmost
    · rw [if_neg (mt hlog.mp h)]
      obtain rfl : e = -1074 := hfull.resolve_left h
      exact unpack_subnormal s hm (by omega)

/-- What is too large does not stay finite. -/
theorem upTo_of_isFinite_pack (hc : Canonical u) (h : (pack u).unpack.isFinite = true) :
    UpTo 971 u := by
  change (UnpackedFloat.unpack Format.binary64 (UnpackedFloat.pack Format.binary64 u)).isFinite =
    true at h
  cases u with
  | zero s => trivial
  | infinity s => cases s <;> cases h
  | notANumber => cases h
  | finite s m e hm =>
    change e ≤ 971
    by_contra hlarge
    have hinf : UnpackedFloat.pack Format.binary64 (.finite s m e hm) =
        packedInfinity Format.binary64 s := by
      have hbias : (Format.binary64.exponentBias : Int) = 1023 := rfl
      have hbits : (Format.binary64.mantissaBitsWithoutImplicit : Int) = 52 := rfl
      have hfield : 2 ^ Format.binary64.exponentBits = 2048 := rfl
      delta UnpackedFloat.pack
      dsimp only
      rw [hbias, hbits, hfield, if_pos (by omega)]
    rw [hinf] at h
    cases s <;> cases h

end Packing

/-! ## Comparing -/

/-- The factor that a sign stands for. -/
def factor (s : UnpackedFloat.Sign) : ℚ := if isMinus s then -1 else 1

@[simp]
theorem factor_positive : factor .positive = 1 := rfl

@[simp]
theorem factor_negative : factor .negative = -1 := rfl

theorem factor_neg (s : UnpackedFloat.Sign) : factor (-s) = -factor s := by
  have h : factor (-s) = if isMinus s then 1 else -1 := by cases s <;> rfl
  rw [h]
  cases s <;> norm_num [factor, isMinus]

theorem factor_mul (s t : UnpackedFloat.Sign) : factor (s * t) = factor s * factor t := by
  have h : factor (s * t) = if isMinus s = isMinus t then 1 else -1 := by
    cases s <;> cases t <;> rfl
  rw [h]
  cases s <;> cases t <;> norm_num [factor, isMinus]

theorem factor_div (s t : UnpackedFloat.Sign) : factor (s / t) = factor s / factor t := by
  have h : factor (s / t) = if isMinus s = isMinus t then 1 else -1 := by
    cases s <;> cases t <;> rfl
  rw [h]
  cases s <;> cases t <;> norm_num [factor, isMinus]

theorem amount_finite (s : UnpackedFloat.Sign) (m : Nat) (e : Int) (hm : 0 < m) :
    amount (.finite s m e hm) = factor s * (m * 2 ^ e) := rfl

@[simp]
theorem amount_zero (s : UnpackedFloat.Sign) : amount (.zero s) = 0 := by
  simp [amount, ofUnpacked, value]

@[simp]
theorem amount_positive (m : Nat) (e : Int) (hm : 0 < m) :
    amount (.finite .positive m e hm) = m * 2 ^ e := one_mul _

@[simp]
theorem amount_negative (m : Nat) (e : Int) (hm : 0 < m) :
    amount (.finite .negative m e hm) = -(m * 2 ^ e) := neg_one_mul _

section Comparing

variable {u v : UnpackedFloat} {m n : Nat} {e f : Int}

/-- Of two magnitudes the one with the larger exponent is larger. -/
theorem mul_two_zpow_lt (hm : m < 0x20000000000000) (hn : 0x10000000000000 ≤ n) (h : e < f) :
    (m * 2 ^ e : ℚ) < n * 2 ^ f := calc
  (m * 2 ^ e : ℚ) < 2 ^ 53 * 2 ^ e := by
    have hm' : (m : ℚ) < 2 ^ 53 := by exact_mod_cast hm
    gcongr
  _ = 2 ^ 52 * 2 ^ (e + 1) := by rw [zpow_add_one₀ (by norm_num)]; ring
  _ ≤ n * 2 ^ f := by
    have hn' : (2 ^ 52 : ℚ) ≤ n := by exact_mod_cast hn
    gcongr
    · norm_num
    · omega

/-- Comparing exponents first and then mantissas is comparing magnitudes. -/
theorem compare_magnitudes {s t : UnpackedFloat.Sign} {hm : 0 < m} {hn : 0 < n}
    (hu : Canonical (.finite s m e hm)) (hv : Canonical (.finite t n f hn)) :
    (compare e f).then (compare m n) = cmp (m * 2 ^ e : ℚ) (n * 2 ^ f) := by
  obtain ⟨hm, he, hm'⟩ := hu
  obtain ⟨hn, hf, hn'⟩ := hv
  rcases lt_trichotomy e f with h | rfl | h
  · have hlt := mul_two_zpow_lt hm (hn'.resolve_right (by omega)) h
    rw [compare_lt_iff_lt.mpr h, hlt.cmp_eq_lt]
    rfl
  · have hpos : (0 : ℚ) < 2 ^ e := by positivity
    rw [compare_eq_iff_eq.mpr rfl, cmp_mul_pos_right hpos, Nat.strictMono_cast.cmp_map_eq,
      cmp_eq_compare]
    rfl
  · have hlt := mul_two_zpow_lt hn (hm'.resolve_right (by omega)) h
    rw [compare_gt_iff_gt.mpr h, hlt.cmp_eq_gt]
    rfl

/-- Comparing what is finite and written as doubles are is comparing what it is worth. -/
theorem compare_eq (hu : Canonical u) (hv : Canonical v) (hfu : u.isFinite = true)
    (hfv : v.isFinite = true) : u.compare v = some (cmp (amount u) (amount v)) := by
  have hpos (m : Nat) (e : Int) (hm : 0 < m) : (0 : ℚ) < m * 2 ^ e := by positivity
  cases u with
  | infinity s => cases hfu
  | notANumber => cases hfu
  | zero s =>
    cases v with
    | infinity t => cases hfv
    | notANumber => cases hfv
    | zero t => simp [UnpackedFloat.compare]
    | finite t n f hn =>
      have := hpos n f hn
      cases t
      · simp [UnpackedFloat.compare, (neg_neg_of_pos this).cmp_eq_gt]
      · simp [UnpackedFloat.compare, this.cmp_eq_lt]
  | finite s m e hm =>
    have hmpos := hpos m e hm
    cases v with
    | infinity t => cases hfv
    | notANumber => cases hfv
    | zero t =>
      cases s
      · simp [UnpackedFloat.compare, (neg_neg_of_pos hmpos).cmp_eq_lt]
      · simp [UnpackedFloat.compare, hmpos.cmp_eq_gt]
    | finite t n f hn =>
      have hnpos := hpos n f hn
      have hcompare := compare_magnitudes hu hv
      have hneg : StrictAnti fun x : ℚ => -x := fun _ _ => neg_lt_neg
      cases s <;> cases t
      · rw [amount_negative, amount_negative, hneg.cmp_map_eq, ← cmp_swap]
        simp [UnpackedFloat.compare, hcompare]
      · rw [amount_negative, amount_positive, ((neg_neg_of_pos hmpos).trans hnpos).cmp_eq_lt]
        rfl
      · rw [amount_negative, amount_positive, ((neg_neg_of_pos hnpos).trans hmpos).cmp_eq_gt]
        rfl
      · rw [amount_positive, amount_positive, ← hcompare]
        rfl

end Comparing

section Doubles

variable {x y : Float}

theorem compare_toModel (hx : x.isFinite = true) (hy : y.isFinite = true) :
    x.toModel.unpack.compare y.toModel.unpack = some (cmp (worth x) (worth y)) := by
  rw [worth_eq, worth_eq]
  exact compare_eq (canonical_unpack x) (canonical_unpack y) hx hy

theorem lt_iff (hx : x.isFinite = true) (hy : y.isFinite = true) : x < y ↔ worth x < worth y := by
  change decide ((x.toModel.unpack.compare y.toModel.unpack == some .lt) = true) = true ↔ _
  rw [compare_toModel hx hy]
  simp

theorem le_iff (hx : x.isFinite = true) (hy : y.isFinite = true) : x ≤ y ↔ worth x ≤ worth y := by
  change decide (((x.toModel.unpack.compare y.toModel.unpack).any (·.isLE)) = true) = true ↔ _
  rw [compare_toModel hx hy, ← not_lt, ← cmp_eq_gt_iff]
  cases cmp (worth x) (worth y) <;> simp

theorem beq_iff (hx : x.isFinite = true) (hy : y.isFinite = true) :
    (x == y) = true ↔ worth x = worth y := by
  change (x.toModel.unpack.compare y.toModel.unpack == some .eq) = true ↔ _
  rw [compare_toModel hx hy]
  simp

end Doubles

end Binary64

end MetesBounds
