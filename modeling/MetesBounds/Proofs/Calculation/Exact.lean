import MetesBounds.Point.Checked
import MetesBounds.Proofs.Calculation
import MetesBounds.Proofs.Calculation.Turn

/-!
# `Calculation/Exact` — numbers for what they are worth

Every finite number is worth a rational one, however it was given, and numbers are the same just
where they are worth the same. Reckoning with what numbers are worth never rounds
(`Reckoning.exact`). An angle that is reduced to one turn there differs from what it was by whole
turns and by nothing else, so that angles can be told from each other modulo 360.

Main statement: `Reckoning.wrap_exact`.
-/

set_option autoImplicit false

namespace MetesBounds

/-! ## What numbers are worth -/

namespace Binary64

/-- Doubles and whole numbers have the same value just where they are worth the same. -/
theorem sameValue_iff {s t : Bool} {m n : ℕ} {q r : ℤ} :
    sameValue (.finite s m q) (.finite t n r) = true ↔
      value (.finite s m q) = value (.finite t n r) := by
  have hpos (m : ℕ) (q : ℤ) : ((ratio m q).2 : ℚ) ≠ 0 :=
    Nat.cast_ne_zero.mpr (Nat.two_pow_pos _).ne'
  have hratio : (ratio m q).1 * (ratio n r).2 = (ratio n r).1 * (ratio m q).2 ↔
      (m * 2 ^ q : ℚ) = n * 2 ^ r := by
    rw [← ratio_eq, ← ratio_eq, div_eq_div_iff (hpos m q) (hpos n r)]
    norm_cast
  have hm : (0 : ℚ) ≤ m * 2 ^ q := by positivity
  have hn : (0 : ℚ) ≤ n * 2 ^ r := by positivity
  have hzero : (m * 2 ^ q : ℚ) = 0 ↔ m = 0 := by
    rw [mul_eq_zero, Nat.cast_eq_zero, or_iff_left (zpow_ne_zero q two_ne_zero)]
  rw [sameValue, Bool.and_eq_true, beq_iff_eq, Bool.or_eq_true, beq_iff_eq, beq_iff_eq, hratio]
  -- of two numbers of different sign that are worth the same, both are zero
  have hopposite : ((m * 2 ^ q : ℚ) = n * 2 ^ r ∧ m = 0) ↔ (m * 2 ^ q : ℚ) = -(n * 2 ^ r) := by
    rw [← hzero]
    constructor
    · rintro ⟨heq, hnone⟩
      rw [← heq, hnone, neg_zero]
    · intro heq
      exact ⟨by linarith, by linarith⟩
  cases s <;> cases t
  · simp
  · rw [value_positive, value_negative, ← hopposite]
    simp
  · rw [value_positive, value_negative, neg_eq_iff_eq_neg, ← hopposite]
    simp
  · simp

end Binary64

namespace Number

/-- What a number is worth. -/
def worth (n : Number) : ℚ := n.value.value

theorem exists_value {n : Number} (h : n.isFinite = true) : ∃ s m q, n.value = .finite s m q := by
  cases n with
  | truth b => exact ⟨_, _, _, rfl⟩
  | whole k => exact ⟨_, _, _, rfl⟩
  | real x =>
    obtain ⟨s, m, q, hx, -⟩ := Binary64.exists_ofFloat h
    exact ⟨s, m, q, hx⟩

theorem same_iff {a b : Number} (ha : a.isFinite = true) (hb : b.isFinite = true) :
    a.same b = true ↔ a.worth = b.worth := by
  obtain ⟨s, m, q, ha⟩ := exists_value ha
  obtain ⟨t, n, r, hb⟩ := exists_value hb
  rw [same, worth, worth, ha, hb, Binary64.sameValue_iff]

end Number

/-! ## Exact arithmetic -/

namespace Number

theorem worth_whole (k : ℤ) : (whole k).worth = k := by
  have habs : (k.natAbs : ℤ) = |k| := Int.natCast_natAbs k
  rw [worth, value, Binary64.value, zpow_zero, mul_one]
  rcases lt_or_ge k 0 with h | h
  · rw [if_pos (decide_eq_true h), neg_one_mul, ← Int.cast_natCast, habs, abs_of_neg h,
      Int.cast_neg, neg_neg]
  · rw [if_neg (by simpa using h), one_mul, ← Int.cast_natCast, habs, abs_of_nonneg h]

/-- The opposite of a number is finite where the number is, and worth as much below zero. -/
theorem opposite_spec (n : Number) :
    n.opposite.isFinite = n.isFinite ∧ (n.isFinite = true → n.opposite.worth = -n.worth) := by
  cases n with
  | truth b => exact ⟨rfl, fun _ => by cases b <;> decide +kernel⟩
  | whole k => exact ⟨rfl, fun _ => by rw [opposite, worth_whole, worth_whole, Int.cast_neg]⟩
  | real x =>
    refine ⟨Bool.eq_iff_iff.mpr ⟨Binary64.isFinite_of_neg, fun h => ?_⟩, fun h => ?_⟩
    · exact (Binary64.worth_neg h).1
    · exact (Binary64.worth_neg h).2

end Number

namespace Decimal

/-- The rational number that a numeral stands for. -/
def Numeral.worth? (n : Numeral) : Option ℚ :=
  match n.magnitude with
  | .decimal digits exponent => some ((if n.negative then -1 else 1) * (digits * 10 ^ exponent))
  | _ => none

end Decimal

namespace Reckoning

/-- The arithmetic of rational numbers. What is not finite is no number to reckon with. -/
def exact : Reckoning ℚ where
  count n := .ok n
  small n := n
  given n := if n.isFinite then .ok n.worth else .error (.notANumeral n.text)
  numeral s := Decimal.readNumeral? s >>= Decimal.Numeral.worth?
  add x y := x + y
  sub x y := x - y
  div x y := x / y
  opposite x := -x
  withinTurn x := x - 360 * (if 0 ≤ x then ⌊x / 360⌋ else ⌈x / 360⌉ : ℤ)
  less x y := x < y
  atMost x y := x ≤ y
  centralAngle length radius :=
    let around := radius * 2 * Binary64.worth circleRatio
    if around = 0 then .error .zeroDivisor else .ok (length * 360 / around)
  shown x := toString x

/-- What is left after whole turns is less than one. -/
theorem abs_withinTurn_lt (x : ℚ) : |exact.withinTurn x| < 360 := by
  have hfloor := Int.floor_le (x / 360)
  have hfloor' := Int.lt_floor_add_one (x / 360)
  have hceil := Int.le_ceil (x / 360)
  have hceil' := Int.ceil_lt_add_one (x / 360)
  rw [exact, abs_lt]
  dsimp only
  split_ifs <;> constructor <;> linarith

theorem withinTurn_modEq (x : ℚ) : exact.withinTurn x ≡ x [PMOD 360] := by
  rw [AddCommGroup.modEq_iff_eq_add_zsmul]
  exact ⟨if 0 ≤ x then ⌊x / 360⌋ else ⌈x / 360⌉, by rw [exact, zsmul_eq_mul]; ring⟩

/-- What is left after whole turns is less than one of them and has the sign of the angle, and
nothing else is so. -/
theorem withinTurn_eq {x r : ℚ} {k : ℤ} (hx : x = k * 360 + r) (hr : |r| < 360)
    (hnonneg : 0 ≤ x → 0 ≤ r) (hnonpos : x < 0 → r ≤ 0) : exact.withinTurn x = r := by
  obtain ⟨hlow, hhigh⟩ := abs_lt.mp hr
  have hk : (if 0 ≤ x then ⌊x / 360⌋ else ⌈x / 360⌉ : ℤ) = k := by
    have hquotient : x / 360 = k + r / 360 := by
      rw [hx]
      ring
    split_ifs with h
    · rw [Int.floor_eq_iff, hquotient]
      have := hnonneg h
      constructor <;> linarith
    · rw [Int.ceil_eq_iff, hquotient]
      have := hnonpos (not_le.mp h)
      constructor <;> linarith
  change x - 360 * ((if 0 ≤ x then ⌊x / 360⌋ else ⌈x / 360⌉ : ℤ) : ℚ) = r
  rw [hk, hx]
  ring

/-- **An angle within one turn is at least zero and less than a turn, and differs from what it was
by whole turns.** -/
theorem wrap_exact (x : ℚ) :
    exact.wrap x ∈ Set.Ico 0 360 ∧ exact.wrap x ≡ x [PMOD 360] := by
  obtain ⟨hlow, hhigh⟩ := abs_lt.mp (abs_withinTurn_lt x)
  have hturns := withinTurn_modEq x
  have hless (r : ℚ) : exact.less r (exact.small 0) = true ↔ r < 0 := decide_eq_true_iff
  have hatMost (r : ℚ) : exact.atMost (exact.small 360) r = true ↔ 360 ≤ r := decide_eq_true_iff
  have hadd (r : ℚ) : exact.add r (exact.small 360) = r + 360 := rfl
  rw [wrap]
  generalize exact.withinTurn x = r at hlow hhigh hturns
  simp only [hless, hatMost, hadd]
  -- what is left never rounds up to a whole turn
  split_ifs
  · linarith
  · refine ⟨⟨by linarith, by linarith⟩, ?_⟩
    exact (AddCommGroup.add_modEq_left.mpr AddCommGroup.self_modEq_zero).trans hturns
  · linarith
  · exact ⟨⟨by linarith, by linarith⟩, hturns⟩

/-- Two angles within one turn are the same where they differ by whole turns. -/
theorem eq_of_modEq {x y : ℚ} (hx : x ∈ Set.Ico 0 360) (hy : y ∈ Set.Ico 0 360)
    (h : x ≡ y [PMOD 360]) : x = y := by
  have hturn : (0 : ℚ) < 360 := by norm_num
  rw [← zero_add 360] at hx hy
  rw [← (toIcoMod_eq_self hturn).mpr hx, ← (toIcoMod_eq_self hturn).mpr hy]
  exact h.toIcoMod_eq_toIcoMod hturn

/-- Angles come out the same just where they differ by whole turns. -/
theorem wrap_exact_eq_iff {x y : ℚ} : exact.wrap x = exact.wrap y ↔ x ≡ y [PMOD 360] := by
  obtain ⟨hx, hx'⟩ := wrap_exact x
  obtain ⟨hy, hy'⟩ := wrap_exact y
  refine ⟨fun h => ?_, fun h => eq_of_modEq hx hy ((hx'.trans h).trans hy'.symm)⟩
  exact (hx'.symm.trans (h ▸ AddCommGroup.modEq_rfl)).trans hy'

end Reckoning

end MetesBounds
