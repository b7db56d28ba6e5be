import MetesBounds.Reckoning

/-!
# `Calculation/Rounding` — a circle that has a radius has a circumference

The central angle of an arc is a quotient by the circumference of its circle, and the radius is
only known not to be at most zero. A product of doubles may round to zero although neither factor
is zero; but not where one factor is at least one: the smallest double is a whole unit of the last
place that there is, and a product that is no smaller keeps that unit when it is rounded.

The argument follows a product through the logical model of doubles, unpacked, multiplied, rounded
and packed. `Binary64.Fits` is what is carried along: other than zero, and no longer than a double.

Main statement: `around_ne_zero`.
-/

set_option autoImplicit false

namespace MetesBounds

namespace Binary64

open Float.Model Float.Model.UnpackedFloat

/-- Whether something unpacked is zero, of either sign. -/
def IsZero : UnpackedFloat → Prop
  | .zero _ => True
  | _ => False

/-- Whether something unpacked is not zero and, where it is finite, has the 53 bits of a double and
none below the last place. -/
def Fits : UnpackedFloat → Prop
  | .zero _ => False
  | .finite _ m e _ => m < 0x20000000000000 ∧ -1074 ≤ e
  | _ => True

/-- Whether something unpacked is finite and at least one, but for its sign. -/
def AtLeastOne : UnpackedFloat → Prop
  | .finite _ m e _ => 0 ≤ e + m.log2
  | _ => False

instance : DecidablePred IsZero
  | .zero _ => .isTrue trivial
  | .infinity _ | .notANumber | .finite .. => .isFalse id

instance : DecidablePred AtLeastOne
  | .finite _ m e _ => inferInstanceAs (Decidable (0 ≤ e + m.log2))
  | .zero _ | .infinity _ | .notANumber => .isFalse id

/-! ## Comparing with zero -/

theorem le_of_isZero {x y : Float} (hx : IsZero x.toModel.unpack) (hy : IsZero y.toModel.unpack) :
    x ≤ y := by
  have h : (x.toModel.unpack.compare y.toModel.unpack) = some .eq := by
    generalize x.toModel.unpack = a at hx
    generalize y.toModel.unpack = b at hy
    cases a with
    | zero s =>
      cases b with
      | zero t => rfl
      | _ => exact hy.elim
    | _ => exact hx.elim
  change (decide ((x.toModel.unpack.compare y.toModel.unpack).any (·.isLE) = true)) = true
  rw [h]
  rfl

theorem beq_eq_false {x y : Float} (hx : ¬IsZero x.toModel.unpack)
    (hy : IsZero y.toModel.unpack) : (x == y) = false := by
  change (x.toModel.unpack.compare y.toModel.unpack == some .eq) = false
  generalize x.toModel.unpack = a at hx
  generalize y.toModel.unpack = b at hy
  cases b with
  | zero t =>
    cases a with
    | zero s => exact (hx trivial).elim
    | notANumber => rfl
    | infinity s => cases s <;> rfl
    | finite s m e hm => cases s <;> rfl
  | _ => exact hy.elim

/-! ## Rounding -/

theorem shift_mantissa (em : ExtendedMantissa) (k : Nat) :
    (em >>> k).mantissa = em.mantissa >>> k := by
  induction k with
  | zero => rfl
  | succ k ih =>
    change (em >>> k).mantissa / 2 = _
    rw [ih, Nat.shiftRight_succ]

theorem mantissa_le_rounded (em : ExtendedMantissa) : em.mantissa ≤ em.roundedMantissa := by
  rcases em with ⟨m, r, s⟩
  cases r <;> cases s <;>
    simp [ExtendedMantissa.roundedMantissa, ExtendedMantissa.accuracy, Accuracy.roundToNearestEven]

theorem targetExponent_eq (m : Nat) (e : Int) :
    Format.binary64.targetExponent (totalExponent m e) = max (m.log2 + e - 52) (-1074) := by
  have hbits : Format.binary64.mantissaBits = 53 := rfl
  have hleast : Format.binary64.minExponent = -1074 := rfl
  rw [Format.targetExponent, totalExponent, hbits, hleast]
  omega

/-- What is no smaller than the last place keeps a bit when it is shifted to where a double has
it. -/
theorem shifted {m : Nat} {e : Int} (hm : 0 < m) (he : -1074 ≤ e + m.log2) :
    let shifted := shiftToTargetExponent Format.binary64 m e .exact
    0 < shifted.1.mantissa ∧ shifted.1.mantissa < 0x20000000000000 ∧ -1074 ≤ shifted.2 := by
  simp only [shiftToTargetExponent, shiftToExponent, targetExponent_eq, shift_mantissa,
    ExtendedMantissa.ofMantissaAndAccuracy, Nat.shiftRight_eq_div_pow]
  generalize hk : (max (m.log2 + e - 52) (-1074) - e).toNat = k
  refine ⟨?_, ?_, by omega⟩
  · have hlow : 2 ^ k ≤ m := calc
      2 ^ k ≤ 2 ^ m.log2 := Nat.pow_le_pow_right (by decide) (by omega)
      _ ≤ m := Nat.log2_self_le (Nat.ne_of_gt hm)
    exact Nat.div_pos hlow (Nat.two_pow_pos k)
  · have hhigh : m < 2 ^ (53 + k) := calc
      m < 2 ^ (m.log2 + 1) := Nat.lt_log2_self
      _ ≤ 2 ^ (53 + k) := Nat.pow_le_pow_right (by decide) (by omega)
    rw [Nat.pow_add] at hhigh
    exact (Nat.div_lt_iff_lt_mul (Nat.two_pow_pos k)).mpr hhigh

theorem fits_round (s : UnpackedFloat.Sign) {m : Nat} {e : Int} (hm : 0 < m) (he : -1074 ≤ e + m.log2) :
    Fits (roundWithAccuracy Format.binary64 s m e .exact) := by
  obtain ⟨hpos, -, hexp⟩ := shifted hm he
  unfold roundWithAccuracy
  generalize shiftToTargetExponent Format.binary64 m e .exact = first at hpos hexp
  obtain ⟨em, f⟩ := first
  dsimp only at hpos hexp ⊢
  have hr : 0 < em.roundedMantissa := Nat.lt_of_lt_of_le hpos (mantissa_le_rounded em)
  -- rounding may have made the mantissa one bit too long, so it is shifted once more
  obtain ⟨hpos, hlt, hexp⟩ := shifted (e := f) hr (by omega)
  rw [dif_neg (Nat.ne_of_gt hpos)]
  exact ⟨hlt, hexp⟩

/-! ## Unpacking and packing -/

/-- What is unpacked fits, unless exponent and mantissa are both zero. -/
theorem isZero_or_fits (b : BitVec 64) :
    (@unpackExponent Format.binary64 b = 0#11 ∧ @unpackMantissa Format.binary64 b = 0#52 ∧
      IsZero (UnpackedFloat.unpack Format.binary64 b)) ∨
    Fits (UnpackedFloat.unpack Format.binary64 b) := by
  have hbias : (Format.binary64.exponentBias : Int) = 1023 := rfl
  delta UnpackedFloat.unpack
  dsimp only
  by_cases hx : @unpackExponent Format.binary64 b = -1#11
  · rw [if_pos hx]
    by_cases hm : @unpackMantissa Format.binary64 b = 0#52
    · rw [if_pos hm]; exact .inr trivial
    · rw [if_neg hm]; exact .inr trivial
  rw [if_neg hx]
  by_cases hx : @unpackExponent Format.binary64 b = 0#11
  · rw [if_pos hx]
    by_cases hm : @unpackMantissa Format.binary64 b = 0#52
    · rw [dif_pos hm]
      exact .inl ⟨hx, hm, trivial⟩
    · rw [dif_neg hm, hx, hbias]
      exact .inr ⟨Nat.lt_trans (BitVec.isLt _) (by decide), by decide⟩
  · rw [if_neg hx, hbias]
    have hpos : (@unpackExponent Format.binary64 b).toNat ≠ 0 :=
      fun h => hx (BitVec.eq_of_toNat_eq h)
    exact .inr ⟨BitVec.isLt _, by omega⟩

theorem fits_unpack {v : Float.Model} (h : ¬IsZero v.unpack) : Fits v.unpack :=
  (isZero_or_fits _).resolve_left fun hz => h hz.2.2

theorem Fits.not_isZero {u : UnpackedFloat} (h : Fits u) : ¬IsZero u := by
  cases u with
  | zero s => exact h.elim
  | _ => exact id

theorem not_isZero_packComponents (s : UnpackedFloat.Sign) {x : BitVec 11} {m : BitVec 52}
    (h : x ≠ 0#11 ∨ m ≠ 0#52) :
    ¬IsZero (UnpackedFloat.unpack Format.binary64 (packComponents Format.binary64 s x m)) := by
  have hf := isZero_or_fits (packComponents Format.binary64 s x m)
  rw [unpackExponent_packComponents, unpackMantissa_packComponents] at hf
  exact (hf.resolve_left fun hz => h.elim (· hz.1) (· hz.2.1)).not_isZero

/-- Packing makes nothing zero that is not. -/
theorem not_isZero_pack {u : UnpackedFloat} (hu : Fits u) : ¬IsZero (pack u).unpack := by
  change ¬IsZero (UnpackedFloat.unpack Format.binary64 (UnpackedFloat.pack Format.binary64 u))
  cases u with
  | zero s => exact hu.elim
  | infinity s => exact not_isZero_packComponents s (.inl (by decide))
  | notANumber => exact not_isZero_packComponents .positive (.inl (by decide))
  | finite s m e hp =>
    obtain ⟨hm, he⟩ := hu
    have hlog : m.log2 < 53 := (Nat.log2_lt (Nat.ne_of_gt hp)).mpr hm
    have hbias : (Format.binary64.exponentBias : Int) = 1023 := rfl
    have hbits : Format.binary64.mantissaBits = 53 := rfl
    delta UnpackedFloat.pack
    dsimp only
    -- too large, and packed as infinite; or with an exponent other than zero; or without one, and
    -- then with all of the mantissa
    split
    · exact not_isZero_packComponents s (.inl (by decide))
    · next hfits =>
      split
      · refine not_isZero_packComponents s (.inl fun h => ?_)
        have hx := congrArg BitVec.toNat h
        rw [BitVec.toNat_ofNat, hbias, Nat.mod_eq_of_lt (by omega)] at hx
        change _ = 0 at hx
        omega
      · next hs =>
        refine not_isZero_packComponents s (.inr fun h => ?_)
        have hlt : m < 2 ^ 52 := (Nat.log2_lt (Nat.ne_of_gt hp)).mp (by omega)
        have hmod := congrArg BitVec.toNat h
        rw [BitVec.toNat_ofNat, Nat.mod_eq_of_lt hlt] at hmod
        exact absurd hmod (Nat.ne_of_gt hp)

/-! ## Products -/

theorem log2_mul {m n : Nat} (hm : 0 < m) (hn : 0 < n) : m.log2 + n.log2 ≤ (m * n).log2 := by
  rw [Nat.le_log2 (Nat.ne_of_gt (Nat.mul_pos hm hn)), Nat.pow_add]
  exact Nat.mul_le_mul (Nat.log2_self_le (Nat.ne_of_gt hm)) (Nat.log2_self_le (Nat.ne_of_gt hn))

/-- **A product with a double that is at least one does not round to zero.** -/
theorem not_isZero_mul {x c : Float} (hx : ¬IsZero x.toModel.unpack)
    (hc : AtLeastOne c.toModel.unpack) : ¬IsZero (x * c).toModel.unpack := by
  change ¬IsZero (pack (UnpackedFloat.mul Format.binary64 x.toModel.unpack c.toModel.unpack)).unpack
  have hf := fits_unpack hx
  refine not_isZero_pack ?_
  generalize c.toModel.unpack = b at hc
  generalize x.toModel.unpack = a at hf
  cases b with
  | finite t n f hn =>
    cases a with
    | zero s => exact hf.elim
    | finite s m e hm =>
      have hlog := log2_mul hm hn
      have hm' : -1074 ≤ e := hf.2
      have hn' : 0 ≤ f + n.log2 := hc
      exact fits_round _ (Nat.mul_pos hm hn) (by omega)
    | _ => trivial
  | _ => exact hc.elim

end Binary64

open Binary64 in
/-- **The circumference of a circle is zero for no radius but one that is at most zero.** -/
theorem around_ne_zero {radius : Float} (h : ¬radius ≤ Float.ofNat 0) :
    (radius * 2.0 * circleRatio == 0.0) = false := by
  have hr : ¬IsZero radius.toModel.unpack := fun hz =>
    h (le_of_isZero hz (by decide +kernel : IsZero (Float.ofNat 0).toModel.unpack))
  have hd : ¬IsZero (radius * 2.0).toModel.unpack :=
    not_isZero_mul hr (by decide +kernel : AtLeastOne (2.0 : Float).toModel.unpack)
  have ha : ¬IsZero (radius * 2.0 * circleRatio).toModel.unpack :=
    not_isZero_mul hd (by decide +kernel : AtLeastOne circleRatio.toModel.unpack)
  exact beq_eq_false ha (by decide +kernel : IsZero (0.0 : Float).toModel.unpack)

end MetesBounds
