import Mathlib
import MetesBounds.Bearing
import MetesBounds.Proofs.Calculation.Turn

/-!
# `Calculation/Seconds` — the seconds of an azimuth

An azimuth is written to the nearest second of arc. Its seconds are worked out as a double and then
rounded, so they may be off by the rounding of the product; but an azimuth that is as near to a
whole number of seconds as doubles come has that number of seconds.

Main statements: `nearestInt?_spec`, `secondsOf_spec` and `secondsOf_near`.
-/

set_option autoImplicit false

namespace MetesBounds

open Binary64

/-! ## Nearest whole numbers -/

/-- The quotient of whole numbers is rounded to the nearest one, a half to the even one. -/
theorem isNearest_roundedQuotient (num : ℕ) {den : ℕ} (hden : 0 < den) :
    IsNearest (roundedQuotient num den) (num / den) := by
  have hpos : (0 : ℚ) < den := by exact_mod_cast hden
  have hnonneg : (0 : ℚ) ≤ (num % den : ℕ) / den := by positivity
  have hlt : ((num % den : ℕ) / den : ℚ) < 1 :=
    (div_lt_one hpos).mpr (by exact_mod_cast Nat.mod_lt num hden)
  have hless : 2 * (num % den) < den ↔ ((num % den : ℕ) / den : ℚ) < 1 / 2 := by
    rw [div_lt_div_iff₀ hpos two_pos, one_mul, mul_comm]
    exact_mod_cast Iff.rfl
  have hmore : den < 2 * (num % den) ↔ (1 / 2 : ℚ) < (num % den : ℕ) / den := by
    rw [div_lt_div_iff₀ two_pos hpos, one_mul, mul_comm]
    exact_mod_cast Iff.rfl
  rw [div_eq_add_mod_div num hden]
  unfold roundedQuotient
  simp only [hless, hmore]
  generalize num / den = q
  generalize ((num % den : ℕ) / den : ℚ) = rest at hnonneg hlt
  split_ifs with hbelow habove heven
  · exact isNearest_of_lt (by rw [abs_lt]; constructor <;> push_cast <;> linarith)
  · exact isNearest_of_lt (by rw [abs_lt]; constructor <;> push_cast <;> linarith)
  · refine ⟨by rw [abs_le]; constructor <;> push_cast <;> linarith, fun _ => ?_⟩
    exact_mod_cast Nat.even_iff.mpr heven
  · refine ⟨by rw [abs_le]; constructor <;> push_cast <;> linarith, fun _ => ?_⟩
    exact_mod_cast Nat.even_iff.mpr (by omega)

/-- A finite double has a nearest whole number. -/
theorem nearestInt?_spec {x : Float} (hx : x.isFinite = true) :
    ∃ n, Decimal.nearestInt? x = some n ∧ IsNearest n (worth x) := by
  obtain ⟨negative, m, q, hofFloat, -⟩ := exists_ofFloat hx
  have hpos : 0 < (ratio m q).2 := Nat.two_pow_pos _
  have hnearest := isNearest_roundedQuotient (ratio m q).1 hpos
  rw [ratio_eq] at hnearest
  rw [Decimal.nearestInt?, worth, hofFloat]
  cases negative
  · exact ⟨_, rfl, by rwa [value_positive]⟩
  · exact ⟨_, rfl, by rw [value_negative]; exact hnearest.neg⟩

/-! ## Seconds -/

namespace Bearing

variable {a : Float} {t : ℕ}

theorem worth_perDegree : (3600.0 : Float).isFinite = true ∧ worth 3600.0 = 3600 :=
  ⟨by decide +kernel, (worth_of_sameValue (n := 3600) (by decide +kernel)).trans (by norm_num)⟩

/-- The seconds of an azimuth as a double. -/
theorem worth_seconds (ha : a.isFinite = true) (hlow : 0 ≤ worth a) (hhigh : worth a < 360) :
    (a * 3600.0).isFinite = true ∧ 0 ≤ worth (a * 3600.0) ∧
      |worth (a * 3600.0) - worth a * 3600| ≤ 2 ^ (-33 : ℤ) := by
  obtain ⟨hperDegree, hworth⟩ := worth_perDegree
  have hmul := rounded_mul ha hperDegree
  rw [hworth] at hmul
  have habs : |worth a * 3600| < 2 ^ (21 : ℤ) := by
    rw [abs_of_nonneg (by positivity)]
    calc worth a * 3600 < 360 * 3600 := by linarith
      _ < 2 ^ (21 : ℤ) := by norm_num
  obtain ⟨hfinite, hnear, hclose⟩ := hmul.close (by decide) (by decide) habs
  exact ⟨hfinite, hnear.nonneg (by positivity), hclose⟩

/-- The seconds of an azimuth are the whole number nearest to them, and a full turn is none. -/
theorem secondsOf_spec (ha : a.isFinite = true) (hlow : 0 ≤ worth a) (hhigh : worth a < 360) :
    ∃ n : ℕ, IsNearest n (worth (a * 3600.0)) ∧ secondsOf a = .ok (n % turnSeconds) := by
  obtain ⟨hfinite, hnonneg, -⟩ := worth_seconds ha hlow hhigh
  obtain ⟨n, hn, hnearest⟩ := nearestInt?_spec hfinite
  have hn' : 0 ≤ n := by
    have hclose := (abs_le.mp hnearest.1).1
    have hlt : (-1 : ℚ) < n := by linarith
    have hlt : -1 < n := by exact_mod_cast hlt
    omega
  obtain ⟨k, rfl⟩ := Int.eq_ofNat_of_zero_le hn'
  refine ⟨k, hnearest, ?_⟩
  rw [secondsOf, hn]
  rfl

/-- An azimuth as near to a number of seconds as doubles come has that number of seconds. -/
theorem secondsOf_near (ha : a.isFinite = true) (hlow : 0 ≤ worth a) (hhigh : worth a < 360)
    (ht : t < turnSeconds) (hclose : |worth a - t / 3600| ≤ 2 ^ (-40 : ℤ)) :
    secondsOf a = .ok t := by
  obtain ⟨-, -, hround⟩ := worth_seconds ha hlow hhigh
  obtain ⟨n, hnearest, hseconds⟩ := secondsOf_spec ha hlow hhigh
  have hlt : |worth (a * 3600.0) - (t : ℤ)| < 1 / 2 := by
    have hsplit : worth (a * 3600.0) - (t : ℤ) =
        (worth (a * 3600.0) - worth a * 3600) + (worth a - t / 3600) * 3600 := by
      push_cast
      ring
    calc |worth (a * 3600.0) - (t : ℤ)|
        ≤ |worth (a * 3600.0) - worth a * 3600| + |(worth a - t / 3600) * 3600| := by
          rw [hsplit]
          exact abs_add_le _ _
      _ = |worth (a * 3600.0) - worth a * 3600| + |worth a - t / 3600| * 3600 := by
          rw [abs_mul, abs_of_pos (by norm_num : (0 : ℚ) < 3600)]
      _ ≤ 2 ^ (-33 : ℤ) + 2 ^ (-40 : ℤ) * 3600 := by gcongr
      _ < 1 / 2 := by norm_num
  obtain rfl : n = t := by exact_mod_cast hnearest.eq_of_lt hlt
  rw [hseconds, Nat.mod_eq_of_lt ht]

end Bearing

end MetesBounds
