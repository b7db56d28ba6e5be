import Mathlib
import MetesBounds.Proofs.Angle.Limits
import MetesBounds.Proofs.Angle.Written

/-!
# `Angle/RoundTrip` — bearings are written and read back to the second

An azimuth is written to the nearest second, in degrees, minutes and seconds or as an angle from a
pole. What is read from that denotes the same number of seconds exactly; and because a double is
much closer to a number of seconds than half a second, the azimuth that is read, or worked out from
the seconds, is written as it was.

Main statement: `written_and_read_back`.
-/

set_option autoImplicit false

namespace MetesBounds

open Binary64
open Decimal (Plain)

/-! ## What a bearing denotes -/

namespace Bearing

variable {b : Bearing} {quadrant : Bool} {t : ℕ}

/-- The azimuth that a bearing denotes, exactly. -/
def exact (b : Bearing) : ℚ :=
  match b.pole, b.side with
  | some .south, some .west => b.angle.exact + 180
  | some .south, _ => 180 - b.angle.exact
  | _, some .west => 360 - b.angle.exact
  | _, _ => b.angle.exact

/-- **What is written denotes the seconds that it was written for.** -/
theorem exact_ofSeconds (quadrant : Bool) (ht : t ≤ turnSeconds) :
    (ofSeconds quadrant t).exact = t / 3600 := by
  have hle : t ≤ 1296000 := ht
  unfold ofSeconds
  split_ifs with h h₁ h₂ h₃
  · exact Dms.exact_ofSeconds t
  · exact Dms.exact_ofSeconds t
  · change 180 - (Dms.ofSeconds (648000 - t)).exact = _
    rw [Dms.exact_ofSeconds, Nat.cast_sub h₂]
    push_cast
    ring
  · change (Dms.ofSeconds (t - 648000)).exact + 180 = _
    rw [Dms.exact_ofSeconds, Nat.cast_sub (by omega)]
    push_cast
    ring
  · change 360 - (Dms.ofSeconds (1296000 - t)).exact = _
    rw [Dms.exact_ofSeconds, Nat.cast_sub hle]
    push_cast
    ring

/-- An angle from a pole is at most a right angle. -/
theorem angle_ofSeconds_le (ht : t ≤ turnSeconds) : (ofSeconds true t).angle.exact ≤ 90 := by
  have hle : t ≤ 1296000 := ht
  have hright {s : ℕ} (hs : s ≤ 324000) : (Dms.ofSeconds s).exact ≤ 90 := by
    have hs : (s : ℚ) ≤ 324000 := by exact_mod_cast hs
    rw [Dms.exact_ofSeconds]
    linarith
  unfold ofSeconds
  split_ifs with h h₁ h₂ h₃
  · exact absurd h (by decide)
  · exact hright h₁
  · exact hright (by omega)
  · exact hright (by omega)
  · exact hright (by omega)

theorem degree_mem_write (quadrant : Bool) (t : ℕ) : '°' ∈ (write quadrant t).toList := by
  have hmem (s : ℕ) : '°' ∈ (writeDms s).toList := by simp [Dms.toList_writeDms]
  unfold write
  split_ifs
  · exact hmem t
  all_goals
    rw [String.toList_append, String.toList_append]
    exact List.mem_append_left _ (List.mem_append_right _ (hmem _))

/-- The degree sign keeps what is written from being a decimal. -/
theorem isAzimuth_write (quadrant : Bool) (t : ℕ) :
    isAzimuth (write quadrant t).toList = false := by
  have hdegree := degree_mem_write quadrant t
  have hblank : Text.isBlank '°' = false := by decide
  have hdigit : Text.isDigit '°' = false := by decide
  rw [Bool.eq_false_iff, ne_eq, isAzimuth_iff]
  rintro ⟨p, before, after, hw, hbefore, hafter, hcs⟩
  rw [hcs, Plain.body] at hdegree
  simp only [List.mem_append] at hdegree
  -- blanks, a sign, digits, a point with digits, blanks: the sign for degrees is none of them
  rcases hdegree with (h | h | h | h) | h
  · rw [hbefore _ h] at hblank
    cases hblank
  · rcases hw.sign with hsign | hsign | hsign <;> rw [hsign] at h <;> exact absurd h (by decide)
  · rw [hw.whole _ h] at hdigit
    cases hdigit
  · cases hfraction : p.fraction with
    | none =>
      rw [hfraction] at h
      cases h
    | some ds =>
      rw [hfraction] at h
      rcases List.mem_cons.mp h with h | h
      · exact absurd h (by decide)
      · rw [hw.fraction ds hfraction _ h] at hdigit
        cases hdigit
  · rw [hafter _ h] at hblank
    cases hblank

end Bearing

/-! ## Doubles -/

section Doubles

variable {x y : Float} {a b ε δ : ℚ}

/-- A whole number of degrees is exact. -/
theorem close_ofNat {n : ℕ} (hn : n < 2 ^ 53) :
    (Float.ofNat n).isFinite = true ∧ |worth (Float.ofNat n) - n| ≤ 0 := by
  obtain ⟨hfinite, hworth⟩ := worth_ofNat hn
  exact ⟨hfinite, by rw [hworth, sub_self, abs_zero]⟩

/-- A part of a degree as a double. -/
theorem close_part {n d : ℕ} (hn : n < d) (hd : d ≤ 3600) :
    (Float.ofNat n / Float.ofNat d).isFinite = true ∧
      |worth (Float.ofNat n / Float.ofNat d) - n / d| ≤ 2 ^ (-54 : ℤ) := by
  have hd₀ := Nat.zero_lt_of_lt hn
  have hpos : (0 : ℚ) < d := by exact_mod_cast hd₀
  have hdiv := rounded_quotient (n := n) (by omega) hd₀ (by omega)
  have habs : |(n / d : ℚ)| < 2 ^ (0 : ℤ) := by
    rw [abs_of_nonneg (by positivity), zpow_zero, div_lt_one hpos]
    exact_mod_cast hn
  obtain ⟨hquotient, -, hclose⟩ := hdiv.close (by decide) (by decide) habs
  exact ⟨hquotient, hclose⟩

/-- What is close to an angle within a turn is rounded to what is nearly as close. -/
theorem Binary64.Near.close_of {z v : ℚ} (h : Near z v) (hclose : |z - a| ≤ ε) (ha : |a| ≤ 360)
    (hε : ε ≤ 1) : |v - a| ≤ ε + 2 ^ (-45 : ℤ) := by
  have hz : |z| < 2 ^ (9 : ℤ) := calc
    |z| = |(z - a) + a| := by rw [sub_add_cancel]
    _ ≤ |z - a| + |a| := abs_add_le _ _
    _ ≤ 1 + 360 := add_le_add (hclose.trans hε) ha
    _ < 2 ^ (9 : ℤ) := by norm_num
  calc |v - a| = |(v - z) + (z - a)| := by rw [sub_add_sub_cancel]
    _ ≤ |v - z| + |z - a| := abs_add_le _ _
    _ ≤ 2 ^ ((9 : ℤ) - 54) + ε := add_le_add (h.close 9 (by decide) hz) hclose
    _ = ε + 2 ^ (-45 : ℤ) := by rw [add_comm]; norm_num

theorem close_add (hx : x.isFinite = true) (hy : y.isFinite = true) (ha : |worth x - a| ≤ ε)
    (hb : |worth y - b| ≤ δ) (hab : |a + b| ≤ 360) (hεδ : ε + δ ≤ 1) (hsmall : |worth y| ≤ 2 ^ 10) :
    (x + y).isFinite = true ∧ |worth (x + y) - (a + b)| ≤ ε + δ + 2 ^ (-45 : ℤ) := by
  obtain ⟨hfinite, hnear⟩ := isFinite_add hx hy hsmall
  refine ⟨hfinite, hnear.close_of ?_ hab hεδ⟩
  rw [add_sub_add_comm]
  exact (abs_add_le _ _).trans (add_le_add ha hb)

theorem close_sub (hx : x.isFinite = true) (hy : y.isFinite = true) (ha : |worth x - a| ≤ ε)
    (hb : |worth y - b| ≤ δ) (hab : |a - b| ≤ 360) (hεδ : ε + δ ≤ 1) (hsmall : |worth x| ≤ 2 ^ 10) :
    (x - y).isFinite = true ∧ |worth (x - y) - (a - b)| ≤ ε + δ + 2 ^ (-45 : ℤ) := by
  obtain ⟨hfinite, hnear⟩ := isFinite_sub hx hy hsmall
  refine ⟨hfinite, hnear.close_of ?_ hab hεδ⟩
  rw [sub_sub_sub_comm]
  exact (abs_sub _ _).trans (add_le_add ha hb)

/-- The degrees of an angle within a turn come as close to it as three roundings can. -/
theorem close_inDegrees {t : ℕ} (ht : t ≤ 1296000) :
    (Dms.ofSeconds t).inDegrees.isFinite = true ∧
      |worth (Dms.ofSeconds t).inDegrees - t / 3600| ≤ 2 ^ (-43 : ℤ) := by
  obtain ⟨hd, hd'⟩ := close_ofNat (n := t / 3600) (by omega)
  obtain ⟨hm, hm'⟩ := close_part (n := t % 3600 / 60) (d := 60) (by omega) (by decide)
  obtain ⟨hs, hs'⟩ := close_part (n := t % 60) (d := 3600) (by omega) (by decide)
  obtain ⟨-, hmlow, hmhigh⟩ :=
    Dms.worth_part (n := t % 3600 / 60) (d := 60) (by omega) (by decide) (by decide)
  obtain ⟨-, hslow, hshigh⟩ :=
    Dms.worth_part (n := t % 60) (d := 3600) (by omega) (by decide) (by decide)
  have hexact := Dms.exact_ofSeconds t
  rw [Dms.exact, Dms.ofSeconds] at hexact
  simp only [Text.digitsValue_toDigits] at hexact
  have hinDegrees : (Dms.ofSeconds t).inDegrees = Float.ofNat (t / 3600) +
      Float.ofNat (t % 3600 / 60) / Float.ofNat 60 + Float.ofNat (t % 60) / Float.ofNat 3600 := by
    rw [Dms.inDegrees, Dms.ofSeconds]
    simp only [Text.digitsValue_toDigits]
    rfl
  have ht' : (t : ℚ) / 3600 ≤ 360 := by
    rw [div_le_iff₀ (by norm_num)]
    exact_mod_cast ht
  have hseconds : (0 : ℚ) ≤ (t % 60 : ℕ) / (3600 : ℕ) := by positivity
  have hbound : |((t / 3600 : ℕ) + (t % 3600 / 60 : ℕ) / (60 : ℕ) : ℚ)| ≤ 360 := by
    rw [abs_of_nonneg (by positivity)]
    push_cast at hseconds ⊢
    linarith
  have hbound' :
      |((t / 3600 : ℕ) + (t % 3600 / 60 : ℕ) / (60 : ℕ) + (t % 60 : ℕ) / (3600 : ℕ) : ℚ)| ≤
        360 := by
    rw [abs_of_nonneg (by positivity)]
    push_cast
    linarith
  obtain ⟨hsum, hsum'⟩ :=
    close_add hd hm hd' hm' hbound (by norm_num) (by rwa [abs_of_nonneg hmlow])
  obtain ⟨hall, hall'⟩ :=
    close_add hsum hs hsum' hs' hbound' (by norm_num) (by rwa [abs_of_nonneg hslow])
  rw [hinDegrees]
  refine ⟨hall, ?_⟩
  push_cast at hall'
  rw [hexact] at hall'
  exact hall'.trans (by norm_num)

end Doubles

namespace Bearing

variable {quadrant : Bool} {t : ℕ}

/-- The direction of what is written comes as close to its seconds as doubles do. -/
theorem close_direction (quadrant : Bool) (ht : t < turnSeconds) :
    (ofSeconds quadrant t).direction.isFinite = true ∧
      |worth (ofSeconds quadrant t).direction - t / 3600| ≤ 2 ^ (-42 : ℤ) := by
  have hlt : t < 1296000 := ht
  obtain ⟨hhalf, hhalf'⟩ := close_ofNat (n := 180) (by decide)
  obtain ⟨hfull, hfull'⟩ := close_ofNat (n := 360) (by decide)
  have hhalf'' := abs_worth_ofNat_le (n := 180) (by decide)
  have hfull'' := abs_worth_ofNat_le (n := 360) (by decide)
  have hexact := exact_ofSeconds quadrant ht.le
  have hturn : |(t / 3600 : ℚ)| ≤ 360 := by
    rw [abs_of_nonneg (by positivity), div_le_iff₀ (by norm_num)]
    exact_mod_cast hlt.le
  have hround : (2 : ℚ) ^ (-43 : ℤ) + 2 ^ (-45 : ℤ) ≤ 2 ^ (-42 : ℤ) := by norm_num
  have hangle {s : ℕ} (hs : s ≤ 1296000) : (Dms.ofSeconds s).inDegrees.isFinite = true ∧
      |worth (Dms.ofSeconds s).inDegrees - (Dms.ofSeconds s).exact| ≤ 2 ^ (-43 : ℤ) := by
    rw [Dms.exact_ofSeconds]
    exact close_inDegrees hs
  have hstraight {s : ℕ} (hs : s ≤ 1296000) : (Dms.ofSeconds s).inDegrees.isFinite = true ∧
      |worth (Dms.ofSeconds s).inDegrees - (Dms.ofSeconds s).exact| ≤ 2 ^ (-42 : ℤ) :=
    ⟨(hangle hs).1, (hangle hs).2.trans (by norm_num)⟩
  rw [← hexact] at hturn ⊢
  unfold ofSeconds at hturn ⊢
  split_ifs at hturn ⊢ with h h₁ h₂ h₃
  -- a plain angle and one from north to east are not counted from anything, the others are
  · exact hstraight hlt.le
  · exact hstraight hlt.le
  · obtain ⟨hfinite, hclose⟩ := hangle (s := 648000 - t) (by omega)
    obtain ⟨hsub, hsub'⟩ := close_sub hhalf hfinite hhalf' hclose hturn (by norm_num) hhalf''
    rw [zero_add] at hsub'
    exact ⟨hsub, hsub'.trans hround⟩
  · obtain ⟨hfinite, hclose⟩ := hangle (s := t - 648000) (by omega)
    obtain ⟨hadd, hadd'⟩ := close_add hfinite hhalf hclose hhalf' hturn (by norm_num) hhalf''
    rw [add_zero] at hadd'
    exact ⟨hadd, hadd'.trans hround⟩
  · obtain ⟨hfinite, hclose⟩ := hangle (s := 1296000 - t) (by omega)
    obtain ⟨hsub, hsub'⟩ := close_sub hfull hfinite hfull' hclose hturn (by norm_num) hfull''
    rw [zero_add] at hsub'
    exact ⟨hsub, hsub'.trans hround⟩

theorem exists_angle (quadrant : Bool) (ht : t ≤ turnSeconds) :
    ∃ s ≤ turnSeconds, (ofSeconds quadrant t).angle = Dms.ofSeconds s := by
  have hle : t ≤ 1296000 := ht
  unfold ofSeconds turnSeconds
  split_ifs <;> exact ⟨_, by omega, rfl⟩

/-- What is written is accepted as a bearing. -/
theorem bearingOfValue_write (quadrant : Bool) (ht : t ≤ turnSeconds) :
    bearingOfValue .double (.text (write quadrant t)) =
      .ok (Reckoning.double.wrap (ofSeconds quadrant t).direction) := by
  obtain ⟨s, hs, hangle⟩ := exists_angle quadrant ht
  have hs' : s ≤ 1296000 := hs
  have hlength : (Nat.toDigits 10 (s / 3600)).length ≤ 3 :=
    (Nat.length_toDigits_le_iff (by decide) (by decide)).mpr (by omega)
  have hdegrees : (ofSeconds quadrant t).angle.degrees.length < 300 := by
    rw [hangle]
    exact hlength.trans_lt (by decide)
  have hwritten : (ofSeconds quadrant t).angle.IsWritten := by
    rw [hangle]
    exact Dms.isWritten_ofSeconds s
  have hazimuth := isAzimuth_write quadrant t
  exact ((followsLongest_bearing .double hazimuth).longest _ (isLongest_write quadrant t)).trans
    (azimuth_eq_ok (hwritten.value_eq_ok hdegrees))

/-- Minutes and seconds are written below sixty. -/
theorem digitsValue_lt (quadrant : Bool) (ht : t ≤ turnSeconds) :
    Text.digitsValue (ofSeconds quadrant t).angle.minutes < 60 ∧
      Text.digitsValue (ofSeconds quadrant t).angle.seconds < 60 := by
  obtain ⟨s, -, hangle⟩ := exists_angle quadrant ht
  rw [hangle, Dms.ofSeconds]
  simp only [Text.digitsValue_toDigits]
  omega

/-- No direction is below zero: none but north comes near it, and north is not rounded. -/
theorem direction_nonneg (quadrant : Bool) (ht : t < turnSeconds) :
    0 ≤ worth (ofSeconds quadrant t).direction := by
  -- being close to zero does not say on which side of it a number is, so north is worked out
  rcases Nat.eq_zero_or_pos t with rfl | hpos
  · have hproper := (Dms.isWritten_ofSeconds 0).inDegrees_proper (by decide +kernel)
    cases quadrant <;> exact hproper.2
  · obtain ⟨-, hclose⟩ := close_direction quadrant ht
    have hone : (1 : ℚ) ≤ t := by exact_mod_cast hpos
    have hsecond : (2 : ℚ) ^ (-42 : ℤ) ≤ 1 / 3600 := by norm_num
    have hlow := (abs_le.mp hclose).1
    linarith

/-- The azimuth that is read comes as close to the seconds that were written. -/
theorem close_wrap_direction (quadrant : Bool) (ht : t < turnSeconds) :
    (Reckoning.double.wrap (ofSeconds quadrant t).direction).isFinite = true ∧
      0 ≤ worth (Reckoning.double.wrap (ofSeconds quadrant t).direction) ∧
      |worth (Reckoning.double.wrap (ofSeconds quadrant t).direction) - t / 3600| ≤
        2 ^ (-42 : ℤ) := by
  obtain ⟨hfinite, hclose⟩ := close_direction quadrant ht
  have hhigh : worth (ofSeconds quadrant t).direction < 360 := by
    have ht' : (t : ℚ) ≤ 1295999 := by exact_mod_cast Nat.le_of_lt_succ ht
    have hsecond : (2 : ℚ) ^ (-42 : ℤ) < 1 / 3600 := by norm_num
    have hclose := (abs_le.mp hclose).2
    linarith
  obtain ⟨hwrap, hwrap', -⟩ := wrap_spec hfinite
  refine ⟨hwrap, hwrap', ?_⟩
  rwa [worth_wrap hfinite (direction_nonneg quadrant ht) hhigh]

end Bearing

/-! ## Writing again -/

theorem Bearing.writeValue_eq {v : Value} {a : Float} {t : ℕ} (hv : v.wrapped = .ok a)
    (ht : secondsOf a = .ok t) (quadrant : Bool) :
    writeValue quadrant v = .ok (write quadrant t) := by
  simp only [writeValue, hv, ht, bind, Except.bind, pure, Except.pure]

/-- An azimuth as near to a number of seconds as doubles come is written as they are. -/
theorem writeValue_near {y : Float} {t : ℕ} (hy : y.isFinite = true) (hlow : 0 ≤ worth y)
    (ht : t < Bearing.turnSeconds) (hclose : |worth y - t / 3600| ≤ 2 ^ (-40 : ℤ))
    (quadrant : Bool) :
    Bearing.writeValue quadrant (.ofFloat y) = .ok (Bearing.write quadrant t) := by
  have ht' : (t : ℚ) ≤ 1295999 := by exact_mod_cast Nat.le_of_lt_succ ht
  have hsecond : (2 : ℚ) ^ (-40 : ℤ) < 1 / 3600 := by norm_num
  have hhigh : worth y < 360 := by
    have := (abs_le.mp hclose).2
    linarith
  obtain ⟨hwrap, hwrap', hwrap''⟩ := wrap_spec hy
  have hworth := worth_wrap hy hlow hhigh
  have hseconds := Bearing.secondsOf_near hwrap hwrap' hwrap'' ht (by rwa [hworth])
  exact Bearing.writeValue_eq rfl hseconds quadrant

/-- A number of seconds as degrees. -/
theorem close_quotient {t : ℕ} (ht : t < Bearing.turnSeconds) :
    (Float.ofNat t / Float.ofNat 3600).isFinite = true ∧
      0 ≤ worth (Float.ofNat t / Float.ofNat 3600) ∧
      |worth (Float.ofNat t / Float.ofNat 3600) - t / 3600| ≤ 2 ^ (-40 : ℤ) := by
  have hlt : t < 1296000 := ht
  have hdiv := rounded_quotient (n := t) (d := 3600) (by omega) (by decide) (by decide)
  rw [Nat.cast_ofNat] at hdiv
  have habs : |(t / 3600 : ℚ)| < 2 ^ (9 : ℤ) := by
    rw [abs_of_nonneg (by positivity), div_lt_iff₀ (by norm_num)]
    exact lt_of_lt_of_le (by exact_mod_cast hlt) (by norm_num : (1296000 : ℚ) ≤ _)
  obtain ⟨hquotient, hnear, hclose⟩ := hdiv.close (by decide) (by decide) habs
  exact ⟨hquotient, hnear.nonneg (by positivity), hclose.trans (by norm_num)⟩

/-- A field is written as a text, and the text is read as a bearing that denotes a number of
seconds; written again it is the same, whether from these seconds or from what was read. -/
structure ReadsBack (v : Value) (t : ℕ) (quadrant : Bool) (s : String) (b : Bearing) : Prop where
  written : Bearing.writeValue quadrant v = .ok s
  read : Bearing.read s.toList = some b
  accepted : bearingOfValue .double (.text s) = .ok (Reckoning.double.wrap b.direction)
  exact : b.exact = t / 3600
  minutes : Text.digitsValue b.angle.minutes < 60
  seconds : Text.digitsValue b.angle.seconds < 60
  quadrant : quadrant = true → b.angle.exact ≤ 90
  again : ∀ quadrant : Bool,
    Bearing.writeValue quadrant (.ofFloat (Float.ofNat t / Float.ofNat 3600)) =
      Bearing.writeValue quadrant v
  readAgain : ∀ quadrant : Bool,
    Bearing.writeValue quadrant (.ofFloat (Reckoning.double.wrap b.direction)) =
      Bearing.writeValue quadrant v

/-- **Bearings are written and read back to the second**, the one nearest to the seconds of the
azimuth as a double; and these are the exact ones but for their last rounding. -/
theorem written_and_read_back {v : Value} {x : Float} (hv : v.toFloat = .ok x)
    (hx : x.isFinite = true) :
    ∃ n : ℕ, IsNearest n (worth (Reckoning.double.wrap x * 3600.0)) ∧
      |worth (Reckoning.double.wrap x * 3600.0) - worth (Reckoning.double.wrap x) * 3600| ≤
        2 ^ (-33 : ℤ) ∧
      ∀ quadrant : Bool, ∃ (s : String) (b : Bearing), ReadsBack v (n % 1296000) quadrant s b := by
  obtain ⟨hwrap, hlow, hhigh⟩ := wrap_spec hx
  obtain ⟨n, hnearest, hseconds⟩ := Bearing.secondsOf_spec hwrap hlow hhigh
  obtain ⟨-, -, hround⟩ := Bearing.worth_seconds hwrap hlow hhigh
  have ht : n % 1296000 < Bearing.turnSeconds := Nat.mod_lt n (by decide)
  have hwrapped : v.wrapped = .ok (Reckoning.double.wrap x) := by
    rw [Value.wrapped, hv]
    rfl
  have hwrite := Bearing.writeValue_eq hwrapped hseconds
  refine ⟨n, hnearest, hround, fun quadrant =>
    ⟨Bearing.write quadrant (n % 1296000), Bearing.ofSeconds quadrant (n % 1296000), ?_⟩⟩
  obtain ⟨hminutes, hseconds⟩ := Bearing.digitsValue_lt quadrant ht.le
  obtain ⟨hfinite, hnonneg, hclose⟩ := close_quotient ht
  obtain ⟨hfinite', hnonneg', hclose'⟩ := Bearing.close_wrap_direction quadrant ht
  have hclose' := hclose'.trans (by norm_num : (2 : ℚ) ^ (-42 : ℤ) ≤ 2 ^ (-40 : ℤ))
  exact {
    written := hwrite quadrant
    read := Bearing.read_eq_some_iff.mpr (Bearing.isLongest_write quadrant _)
    accepted := Bearing.bearingOfValue_write quadrant ht.le
    exact := Bearing.exact_ofSeconds quadrant ht.le
    minutes := hminutes
    seconds := hseconds
    quadrant := by
      rintro rfl
      exact Bearing.angle_ofSeconds_le ht.le
    again := fun quadrant =>
      (writeValue_near hfinite hnonneg ht hclose quadrant).trans (hwrite quadrant).symm
    readAgain := fun quadrant =>
      (writeValue_near hfinite' hnonneg' ht hclose' quadrant).trans (hwrite quadrant).symm }

/-- Southwest is 810000 seconds. -/
theorem written_and_read_back_southwest :
    ∃ b, ReadsBack (.ofFloat 225.0) 810000 true "S45°0'0\"W" b := by
  obtain ⟨n, hnearest, -, hback⟩ :=
    written_and_read_back (v := .ofFloat 225.0) (x := 225.0) rfl (by decide +kernel)
  have hworth : worth (Reckoning.double.wrap 225.0 * 3600.0) = (810000 : ℕ) :=
    worth_of_sameValue (by decide +kernel)
  obtain rfl : n = 810000 := by
    exact_mod_cast hnearest.eq_of_int (k := 810000) (by rw [hworth]; norm_num)
  obtain ⟨s, b, h⟩ := hback true
  have hworth' : worth 225.0 = (225 : ℕ) := worth_of_sameValue (by decide +kernel)
  have hwritten : Bearing.writeValue true (.ofFloat 225.0) = .ok "S45°0'0\"W" :=
    writeValue_near (t := 810000) (by decide +kernel) (by rw [hworth']; positivity) (by decide)
      (by rw [hworth']; norm_num) true
  obtain rfl := Except.ok.inj (h.written.symm.trans hwritten)
  exact ⟨b, h⟩

end MetesBounds
