import Mathlib
import MetesBounds.Proofs.Angle.Texts
import MetesBounds.Proofs.Calculation.Turn
import MetesBounds.Proofs.Decimal.Largest

/-!
# `Angle/Limits` — which texts give a proper angle, and which an accident

A text that is an angle gives a number of degrees that is finite and not below zero, and one that is
a bearing an azimuth that is within one turn. Any other is refused, and the refusal shows it. That
fails in three ways only, and rows of digits or white space bring them about. Degrees of more than
4300 digits are refused as digits, and degrees beyond the largest double as a number. A decimal
beyond it is infinite, and after whole turns nothing is left of it that is a number. And a decimal
next to an information separator is taken for an azimuth and then for no numeral.

Main statement: `proper_unless_too_large`.
-/

set_option autoImplicit false

namespace MetesBounds

open Binary64
open Decimal (Plain)

/-! ## Degrees -/

namespace Dms

variable {a : Dms} {n d : ℕ}

/-- A part of a degree is small. -/
theorem worth_part (hn : n < 100) (hd : 0 < d) (hd' : d ≤ 3600) :
    (Float.ofNat n / Float.ofNat d).isFinite = true ∧ 0 ≤ worth (Float.ofNat n / Float.ofNat d) ∧
      worth (Float.ofNat n / Float.ofNat d) ≤ 2 ^ 10 := by
  have hpos : (0 : ℚ) < d := by exact_mod_cast hd
  have hdiv := rounded_quotient (n := n) (by omega) hd (by omega)
  have hlt : (n / d : ℚ) < 100 := by
    rw [div_lt_iff₀ hpos]
    have hle : n < 100 * d := by omega
    exact_mod_cast hle
  have habs : |(n / d : ℚ)| < 2 ^ (7 : ℤ) := by
    rw [abs_of_nonneg (by positivity)]
    exact hlt.trans (by norm_num)
  obtain ⟨hquotient, hnear, hclose⟩ := hdiv.close (by decide) (by decide) habs
  refine ⟨hquotient, hnear.nonneg (by positivity), ?_⟩
  have hclose := (abs_le.mp hclose).2
  have hone : (2 : ℚ) ^ ((7 : ℤ) - 54) ≤ 1 := zpow_le_one_of_nonpos₀ one_le_two (by decide)
  linarith

theorem IsShort.digitsValue_lt {ds : List Char} (h : IsShort ds) : Text.digitsValue ds < 100 := by
  have hlt := Text.digitsValue_lt ds
  rcases h.1 with hone | htwo
  · rw [hone] at hlt
    omega
  · rwa [htwo] at hlt

/-- What is wrong with the degrees of an angle, if anything: too many digits, or too large a
number. -/
def excess? (a : Dms) : Option Error :=
  if 4300 < a.degrees.length then some (.tooManyDigits a.degrees.length)
  else if 2 ^ 1024 - 2 ^ 970 ≤ Text.digitsValue a.degrees then some .tooLarge
  else none

theorem doubleOfInt_eq (n : ℕ) :
    doubleOfInt n = if n < 2 ^ 1024 - 2 ^ 970 then .ok (Float.ofNat n) else .error .tooLarge := by
  have hofInt : Float.ofInt n = Float.ofNat n := rfl
  rw [doubleOfInt, Binary64.ofInt?, hofInt]
  by_cases h : n < 2 ^ 1024 - 2 ^ 970
  · rw [if_pos h, if_pos (isFinite_ofNat_iff.mpr h)]
  · rw [if_neg h, if_neg (mt isFinite_ofNat_iff.mp h)]

/-- The value of an angle is a number of degrees, unless something is wrong with them. -/
theorem IsWritten.value_eq (hw : a.IsWritten) :
    a.value .double =
      match a.excess? with
      | some e => .error e
      | none => .ok a.inDegrees := by
  have hcount (n : ℕ) : Reckoning.double.count n = doubleOfInt n := rfl
  unfold excess?
  by_cases hlong : 4300 < a.degrees.length
  · rw [if_pos hlong, value, countOf_eq_error hlong]
    rfl
  rw [if_neg hlong, value, Dms.countOf_eq_ok (not_lt.mp hlong), hw.minutes.countOf_eq_ok,
    hw.seconds.countOf_eq_ok]
  change (Reckoning.double.count (Text.digitsValue a.degrees) >>= fun whole => _) = _
  rw [hcount, doubleOfInt_eq]
  by_cases hlarge : 2 ^ 1024 - 2 ^ 970 ≤ Text.digitsValue a.degrees
  · rw [if_pos hlarge, if_neg (not_lt.mpr hlarge)]
    rfl
  · rw [if_neg hlarge, if_pos (not_le.mp hlarge)]
    rfl

/-- **Degrees that are not too large come to an angle that is finite and not below zero.** -/
theorem IsWritten.inDegrees_proper (hw : a.IsWritten) (h : a.excess? = none) :
    a.inDegrees.isFinite = true ∧ 0 ≤ worth a.inDegrees := by
  have hdegrees : Text.digitsValue a.degrees < 2 ^ 1024 - 2 ^ 970 := by
    unfold excess? at h
    split_ifs at h with hlong hlarge
    exact not_le.mp hlarge
  have hfinite := isFinite_ofNat_iff.mpr hdegrees
  have hnonneg := ((rounded_ofNat (Text.digitsValue a.degrees)).near hfinite).nonneg
    (Nat.cast_nonneg _)
  obtain ⟨hm, hm', hm''⟩ := worth_part (d := 60) hw.minutes.digitsValue_lt (by decide) (by decide)
  obtain ⟨hs, hs', hs''⟩ := worth_part (d := 3600) hw.seconds.digitsValue_lt (by decide) (by decide)
  obtain ⟨hsum, hnear⟩ := isFinite_add hfinite hm (by rwa [abs_of_nonneg hm'])
  obtain ⟨hsum', hnear'⟩ := isFinite_add hsum hs (by rwa [abs_of_nonneg hs'])
  exact ⟨hsum', hnear'.nonneg (add_nonneg (hnear.nonneg (add_nonneg hnonneg hm')) hs')⟩

end Dms

/-! ## Directions -/

namespace Bearing

variable {b : Bearing}

/-- A finite angle is counted from a pole as a finite number of degrees. -/
theorem isFinite_direction (h : b.angle.inDegrees.isFinite = true) :
    b.direction.isFinite = true := by
  have hhalf := (worth_ofNat (n := 180) (by decide)).1
  have hfull := (worth_ofNat (n := 360) (by decide)).1
  have hhalf' := abs_worth_ofNat_le (n := 180) (by decide)
  have hfull' := abs_worth_ofNat_le (n := 360) (by decide)
  unfold direction
  split
  · exact (isFinite_add h hhalf hhalf').1
  · exact (isFinite_sub hhalf h hhalf').1
  · exact (isFinite_sub hfull h hfull').1
  · exact h

theorem azimuth_eq (hw : b.angle.IsWritten) :
    b.azimuth .double =
      match b.angle.excess? with
      | some e => .error e
      | none => .ok (Reckoning.double.wrap b.direction) := by
  have hvalue := hw.value_eq
  cases h : b.angle.excess? with
  | some e =>
    rw [h] at hvalue
    rw [azimuth, hvalue]
    rfl
  | none =>
    rw [h] at hvalue
    exact azimuth_eq_ok hvalue

end Bearing

/-! ## Texts -/

/-- A result is an angle, finite and not below zero, or the refusal of a text. -/
def IsProperAngle (s : String) (result : Except Error Float) : Prop :=
  (∃ x, result = .ok x ∧ x.isFinite = true ∧ 0 ≤ worth x) ∨
    result = .error (.badAngle (Text.quoted s))

/-- A result is an azimuth, at least zero and less than a turn, or the refusal of a text. -/
def IsProperBearing (s : String) (result : Except Error Float) : Prop :=
  (∃ x, result = .ok x ∧ x.isFinite = true ∧ 0 ≤ worth x ∧ worth x < 360) ∨
    result = .error (.badBearing (Text.quoted s))

theorem isProperAngle_error {s : String} {e : Error} (h : e ≠ .badAngle (Text.quoted s)) :
    ¬IsProperAngle s (.error e) := by
  rintro (⟨x, hx, -⟩ | hrefused)
  · cases hx
  · exact h (Except.error.inj hrefused)

theorem isProperBearing_error {s : String} {e : Error} (h : e ≠ .badBearing (Text.quoted s)) :
    ¬IsProperBearing s (.error e) := by
  rintro (⟨x, hx, -⟩ | hrefused)
  · cases hx
  · exact h (Except.error.inj hrefused)

/-- What is wrong with degrees is never that a text is no angle. -/
theorem Dms.excess?_ne {a : Dms} {e : Error} (h : a.excess? = some e) :
    (∀ shown, e ≠ .badAngle shown) ∧ ∀ shown, e ≠ .badBearing shown := by
  unfold excess? at h
  split_ifs at h <;> cases h <;> exact ⟨nofun, nofun⟩

/-- The outcome of a text is proper where nothing is wrong with the longest reading. -/
theorem FollowsLongest.proper_iff {ρ α : Type} {IsReading IsLongest : ρ → Prop}
    {worth : ρ → Except Error α} {refusal : Error} {result : Except Error α}
    {IsProper : Except Error α → Prop} {excess? : ρ → Option Error}
    (h : FollowsLongest IsReading IsLongest worth refusal result)
    (hrefusal : IsProper (.error refusal))
    (hworth : ∀ r, IsLongest r → (IsProper (worth r) ↔ excess? r = none)) :
    IsProper result ↔ ∀ r, IsLongest r → excess? r = none := by
  constructor
  · intro hproper r hr
    rw [h.longest r hr] at hproper
    exact (hworth r hr).mp hproper
  · intro hnone
    by_cases hread : ∃ r, IsReading r
    · obtain ⟨r, hr⟩ := hread
      obtain ⟨r', hr'⟩ := h.someLongest r hr
      rw [h.longest r' hr']
      exact (hworth r' hr').mpr (hnone r' hr')
    · rw [h.noReading (not_exists.mp hread)]
      exact hrefusal

theorem not_isFinite_of_isNaN {x : Float} (h : x.isNaN = true) : x.isFinite = false := by
  change x.toModel.unpack.isNaN = true at h
  change x.toModel.unpack.isFinite = false
  generalize x.toModel.unpack = u at h
  cases u with
  | notANumber => rfl
  | _ => cases h

section Texts

variable {s : String}

theorem isProperAngle_value {a : Dms} (hw : a.IsWritten) :
    IsProperAngle s (a.value .double) ↔ a.excess? = none := by
  rw [hw.value_eq]
  cases h : a.excess? with
  | some e => exact iff_of_false (isProperAngle_error ((Dms.excess?_ne h).1 _)) nofun
  | none => exact iff_of_true (.inl ⟨_, rfl, hw.inDegrees_proper h⟩) rfl

theorem isProperBearing_wrap {x : Float} (hx : x.isFinite = true) :
    IsProperBearing s (.ok (Reckoning.double.wrap x)) :=
  .inl ⟨_, rfl, wrap_spec hx⟩

theorem isProperBearing_azimuth {b : Bearing} (hw : b.angle.IsWritten) :
    IsProperBearing s (b.azimuth .double) ↔ b.angle.excess? = none := by
  rw [Bearing.azimuth_eq hw]
  cases h : b.angle.excess? with
  | some e => exact iff_of_false (isProperBearing_error ((Dms.excess?_ne h).2 _)) nofun
  | none =>
    exact iff_of_true
      (isProperBearing_wrap (Bearing.isFinite_direction (hw.inDegrees_proper h).1)) rfl

theorem Dms.IsReading.isWritten {cs : List Char} {a : Dms} (h : a.IsReading cs) : a.IsWritten := by
  obtain ⟨-, body, -, -, hbody, -⟩ := h
  exact hbody.1

theorem Bearing.IsReading.isWritten {cs : List Char} {b : Bearing} (h : b.IsReading cs) :
    b.angle.IsWritten := by
  obtain ⟨-, -, -, body, -, -, -, -, -, -, hbody, -⟩ := h
  exact hbody.1

theorem isAzimuth_eq_false
    (h : ∀ (p : Plain) (before after : List Char), ¬p.IsBetween before after s.toList) :
    isAzimuth s.toList = false := by
  rw [Bool.eq_false_iff, ne_eq, isAzimuth_iff]
  rintro ⟨p, before, after, hbetween⟩
  exact h p before after hbetween

/-- A decimal next to a separator is refused, and one beyond the largest double is no number. -/
theorem bearing_of_isBetween {p : Plain} {before after : List Char}
    (h : p.IsBetween before after s.toList) :
    ((before ++ after).all Text.isNumeralBlank = false →
      bearingOfValue .double (.text s) = .error (.notANumeral (Text.quoted s))) ∧
    ((before ++ after).all Text.isNumeralBlank = true → beyond ≤ p.size →
      ∃ x, bearingOfValue .double (.text s) = .ok x ∧ x.isNaN = true) := by
  have hresult : bearingOfValue .double (.text s) = bearingOfText .double s := rfl
  rw [hresult, bearingOfText_of_isBetween h]
  refine ⟨fun hblank => if_neg (Bool.eq_false_iff.mp hblank), fun hblank hlarge => ?_⟩
  rw [if_pos hblank]
  refine ⟨_, rfl, wrap_of_not_isFinite (Bool.eq_false_iff.mpr fun hfinite => ?_)⟩
  exact not_lt.mpr hlarge (p.isFinite_value_iff.mp hfinite)

theorem isProperBearing_isBetween {p : Plain} {before after : List Char}
    (h : p.IsBetween before after s.toList) :
    IsProperBearing s (bearingOfValue .double (.text s)) ↔
      (before ++ after).all Text.isNumeralBlank = true ∧ p.size < beyond := by
  have hresult : bearingOfValue .double (.text s) = bearingOfText .double s := rfl
  rw [hresult, bearingOfText_of_isBetween h]
  by_cases hblank : (before ++ after).all Text.isNumeralBlank = true
  · rw [if_pos hblank, ← p.isFinite_value_iff]
    by_cases hfinite : p.value.isFinite = true
    · exact iff_of_true (isProperBearing_wrap hfinite) ⟨hblank, hfinite⟩
    · refine iff_of_false ?_ fun h => hfinite h.2
      rintro (⟨x, hx, hproper, -⟩ | hrefused)
      · cases hx
        have hnan := wrap_of_not_isFinite (Bool.eq_false_iff.mpr hfinite)
        rw [not_isFinite_of_isNaN hnan] at hproper
        cases hproper
      · cases hrefused
  · rw [if_neg hblank]
    exact iff_of_false (isProperBearing_error nofun) fun h => hblank h.1

end Texts

/-- **A text gives a proper angle or azimuth or is refused, unless its digits or its white space
bring about an accident**, and what happens then. -/
theorem proper_unless_too_large (s : String) :
    (IsProperAngle s (angleOfValue .double (.text s)) ↔
      ∀ a : Dms, a.IsLongest s.toList → a.excess? = none) ∧
    (∀ (a : Dms) (e : Error), a.IsLongest s.toList → a.excess? = some e →
      angleOfValue .double (.text s) = .error e) ∧
    (IsProperBearing s (bearingOfValue .double (.text s)) ↔
      (∀ (p : Plain) (before after : List Char), p.IsBetween before after s.toList →
        (before ++ after).all Text.isNumeralBlank = true ∧ p.size < beyond) ∧
      ((∀ (p : Plain) (before after : List Char), ¬p.IsBetween before after s.toList) →
        ∀ b : Bearing, b.IsLongest s.toList → b.angle.excess? = none)) ∧
    (∀ (p : Plain) (before after : List Char), p.IsBetween before after s.toList →
      ((before ++ after).all Text.isNumeralBlank = false →
        bearingOfValue .double (.text s) = .error (.notANumeral (Text.quoted s))) ∧
      ((before ++ after).all Text.isNumeralBlank = true → beyond ≤ p.size →
        ∃ x, bearingOfValue .double (.text s) = .ok x ∧ x.isNaN = true)) ∧
    ((∀ (p : Plain) (before after : List Char), ¬p.IsBetween before after s.toList) →
      ∀ (b : Bearing) (e : Error), b.IsLongest s.toList → b.angle.excess? = some e →
        bearingOfValue .double (.text s) = .error e) := by
  have hangle := followsLongest_angle s
  refine ⟨?_, fun a e ha he => ?_, ⟨fun hproper => ⟨fun p before after h => ?_, fun hnone => ?_⟩,
    fun ⟨hbetween, hother⟩ => ?_⟩, fun p before after h => bearing_of_isBetween h,
    fun hnone b e hb he => ?_⟩
  · exact hangle.proper_iff (.inr rfl) fun a ha => isProperAngle_value ha.1.isWritten
  · rw [hangle.longest a ha, ha.1.isWritten.value_eq, he]
  · exact (isProperBearing_isBetween h).mp hproper
  · have hbearing := followsLongest_bearing .double (isAzimuth_eq_false hnone)
    exact (hbearing.proper_iff (.inr rfl) fun b hb => isProperBearing_azimuth hb.1.isWritten).mp
      hproper
  · by_cases h : isAzimuth s.toList = true
    · obtain ⟨p, before, after, h⟩ := isAzimuth_iff.mp h
      exact (isProperBearing_isBetween h).mpr (hbetween p before after h)
    · have hnone (p : Plain) (before after : List Char) : ¬p.IsBetween before after s.toList :=
        fun hp => h (isAzimuth_iff.mpr ⟨p, before, after, hp⟩)
      have hbearing := followsLongest_bearing .double (Bool.eq_false_iff.mpr h)
      exact (hbearing.proper_iff (.inr rfl) fun b hb => isProperBearing_azimuth hb.1.isWritten).mpr
        (hother hnone)
  · have hbearing := followsLongest_bearing .double (isAzimuth_eq_false hnone)
    exact (hbearing.longest b hb).trans (by rw [Bearing.azimuth_eq hb.1.isWritten, he])

/-- Three hundred and nine nines. -/
def nines : String := String.ofList (List.replicate 309 '9')

theorem nines_isBetween :
    Plain.IsBetween ⟨[], List.replicate 309 '9', none⟩ [] [] nines.toList := by
  have hdigits : Text.IsDigits (List.replicate 309 '9') := by
    intro c hc
    rw [List.eq_of_mem_replicate hc]
    decide
  have hsome : List.replicate 309 '9' ≠ [] := mt (List.replicate_eq_nil_iff _).mp (by decide)
  have hwritten : Plain.IsWritten ⟨[], List.replicate 309 '9', none⟩ :=
    ⟨.inl rfl, hsome, hdigits, nofun⟩
  have htext : nines.toList = List.replicate 309 '9' := String.toList_ofList
  refine ⟨hwritten, nofun, nofun, ?_⟩
  rw [htext, Plain.body, Decimal.pointed, List.append_nil, List.nil_append, List.nil_append,
    List.append_nil]

/-- They are more than the largest double. -/
theorem beyond_le_nines : beyond ≤ Plain.size ⟨[], List.replicate 309 '9', none⟩ := by
  have hvalue : 2 ^ 1024 ≤ Text.digitsValue (List.replicate 309 '9' ++ []) := by decide +kernel
  have hsize : Plain.size ⟨[], List.replicate 309 '9', none⟩ =
      Text.digitsValue (List.replicate 309 '9' ++ []) / 10 ^ 0 := rfl
  calc beyond ≤ 2 ^ 1024 := sub_le_self _ (by positivity)
    _ ≤ Text.digitsValue (List.replicate 309 '9' ++ []) := by exact_mod_cast hvalue
    _ = Plain.size ⟨[], List.replicate 309 '9', none⟩ := by rw [hsize, pow_zero, div_one]

/-- An angle may have more minutes and seconds than there are; a decimal may be no number. -/
theorem proper_unless_too_large_nines :
    IsProperAngle "45°99'99\"" (angleOfValue .double (.text "45°99'99\"")) ∧
      ∃ x, bearingOfValue .double (.text nines) = .ok x ∧ x.isNaN = true := by
  refine ⟨(proper_unless_too_large _).1.mpr fun a ha => ?_,
    ((proper_unless_too_large nines).2.2.2.1 _ _ _ nines_isBetween).2 rfl beyond_le_nines⟩
  have hread : Dms.read "45°99'99\"".toList = some ⟨['4', '5'], ['9', '9'], ['9', '9']⟩ := rfl
  cases (Dms.read_eq_some_iff.mpr ha).symm.trans hread
  decide +kernel

/-- What comes out for them is no proper azimuth, and it is not even a number. -/
theorem nines_give_no_number :
    ¬IsProperBearing nines (bearingOfValue .double (.text nines)) ∧
      ∃ x, bearingOfValue .double (.text nines) = .ok x ∧ x.isNaN = true :=
  ⟨fun h => not_lt.mpr beyond_le_nines ((isProperBearing_isBetween nines_isBetween).mp h).2,
    (bearing_of_isBetween nines_isBetween).2 rfl beyond_le_nines⟩

end MetesBounds
