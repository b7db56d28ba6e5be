import MetesBounds.Proofs.Angle.Azimuth
import MetesBounds.Proofs.Angle.Grammar
import MetesBounds.Proofs.Calculation.Extent

/-!
# `Angle/Texts` — what a text gives as an angle and as a bearing

How a text is written settles what it gives. As an angle it gives the degrees of its longest reading.
As a bearing it is an azimuth where it is a plain decimal between white space; otherwise its longest
reading has an angle, and the direction is counted from it by the letters around. Nothing else is
accepted.

Rows of digits can be too long for that. More than 4300 digits are not taken for a number, and
degrees beyond the largest double are refused, so the values are settled for texts without a row of
three hundred digits. And there is white space that may surround an azimuth but no numeral: next to
it an azimuth is recognized and then refused.

Main statement: `settled_by_writing`.
-/

set_option autoImplicit false

namespace MetesBounds

open Text (IsDigits)
open Decimal (Plain)

/-! ## Short rows of digits -/

namespace Text

/-- There is no row of three hundred digits. -/
def HasShortRuns (cs : List Char) : Prop := ∀ ds, IsDigits ds → ds <:+: cs → ds.length < 300

theorem hasShortRuns_of_length {cs : List Char} (h : cs.length < 300) : HasShortRuns cs :=
  fun _ _ hinfix => Nat.lt_of_le_of_lt hinfix.length_le h

theorem digitValue_lt (c : Char) : digitValue c < 10 := by
  cases h : isDigit c with
  | true =>
    obtain ⟨z, -, hlow, hhigh, hvalue⟩ := exists_zero h
    rw [digitValue, hvalue, Option.getD_some]
    omega
  | false =>
    rw [isDigit, Option.isSome_eq_false_iff, Option.isNone_iff_eq_none] at h
    rw [digitValue, h]
    decide

theorem digitsValue_lt (ds : List Char) : digitsValue ds < 10 ^ ds.length := by
  induction ds using List.reverseRecOn with
  | nil => decide
  | append_singleton ds d ih =>
    have hd := digitValue_lt d
    rw [digitsValue_append_one, List.length_append, List.length_singleton, Nat.pow_succ]
    omega

/-- Three decimal digits take less than ten bits. -/
theorem digitsValue_lt_two_pow {ds : List Char} {k : Nat} (h : ds.length ≤ 3 * k) :
    digitsValue ds < 2 ^ (10 * k) := calc
  digitsValue ds < 10 ^ ds.length := digitsValue_lt ds
  _ ≤ 10 ^ (3 * k) := Nat.pow_le_pow_right (by decide) h
  _ = (10 ^ 3) ^ k := Nat.pow_mul 10 3 k
  _ ≤ (2 ^ 10) ^ k := Nat.pow_le_pow_left (by decide) k
  _ = 2 ^ (10 * k) := (Nat.pow_mul 2 10 k).symm

end Text

/-! ## Degrees -/

namespace Dms

variable {a : Dms} {ds body cs : List Char}

/-- The number of degrees as a double. -/
def inDegrees (a : Dms) : Float :=
  Float.ofNat (Text.digitsValue a.degrees) + Float.ofNat (Text.digitsValue a.minutes) / 60 +
    Float.ofNat (Text.digitsValue a.seconds) / 3600

theorem countOf_eq_ok (h : ds.length ≤ 4300) : countOf ds = .ok (Text.digitsValue ds) := if_pos h

theorem countOf_eq_error (h : 4300 < ds.length) :
    countOf ds = .error (.tooManyDigits ds.length) := if_neg (Nat.not_le.mpr h)

theorem IsShort.countOf_eq_ok (h : IsShort ds) : countOf ds = .ok (Text.digitsValue ds) :=
  Dms.countOf_eq_ok (by have := h.1; omega)

theorem IsWritten.value_eq_ok (hw : a.IsWritten) (h : a.degrees.length < 300) :
    a.value .double = .ok a.inDegrees := by
  have hcount : Reckoning.double.count (Text.digitsValue a.degrees) =
      .ok (Float.ofNat (Text.digitsValue a.degrees)) :=
    doubleOfInt_eq_ok (Text.digitsValue_lt_two_pow (k := 100) (by omega)) (by decide)
  rw [value, Dms.countOf_eq_ok (by omega), hw.minutes.countOf_eq_ok, hw.seconds.countOf_eq_ok]
  change (Reckoning.double.count (Text.digitsValue a.degrees) >>= fun whole => _) = _
  rw [hcount]
  rfl

theorem Spells.degrees_prefix (h : a.Spells body) : a.degrees <+: body := by
  obtain ⟨-, m₁, s₁, m₂, s₂, m₃, s₃, -, -, -, -, -, -, rfl⟩ := h
  simp only [List.append_assoc]
  exact List.prefix_append _ _

/-- An angle somewhere in a text without long rows of digits is a number of degrees. -/
theorem Spells.value_eq_ok (h : a.Spells body) (hbody : body <:+: cs)
    (hshort : Text.HasShortRuns cs) : a.value .double = .ok a.inDegrees :=
  h.1.value_eq_ok (hshort _ h.1.degrees (h.degrees_prefix.isInfix.trans hbody))

theorem IsReading.value_eq_ok (h : a.IsReading cs) (hshort : Text.HasShortRuns cs) :
    a.value .double = .ok a.inDegrees := by
  obtain ⟨front, body, last, -, hbody, -, rfl⟩ := h
  exact hbody.value_eq_ok (List.infix_append front body last) hshort

end Dms

/-! ## Directions -/

namespace Bearing

variable {b : Bearing} {cs : List Char}

/-- The direction of a bearing, before whole turns are taken away. -/
def direction (b : Bearing) : Float :=
  match b.pole, b.side with
  | some .south, some .west => b.angle.inDegrees + 180
  | some .south, _ => 180 - b.angle.inDegrees
  | _, some .west => 360 - b.angle.inDegrees
  | _, _ => b.angle.inDegrees

theorem azimuth_eq_ok (h : b.angle.value .double = .ok b.angle.inDegrees) :
    b.azimuth .double = .ok (Reckoning.double.wrap b.direction) := by
  rw [azimuth, h]
  obtain ⟨pole, angle, side⟩ := b
  rcases pole with _ | _ | _ <;> rcases side with _ | _ | _ <;> rfl

theorem IsReading.azimuth_eq_ok (h : b.IsReading cs) (hshort : Text.HasShortRuns cs) :
    b.azimuth .double = .ok (Reckoning.double.wrap b.direction) := by
  obtain ⟨s₁, p, s₂, body, e, s₃, last, -, -, -, hbody, -, -, -, rfl⟩ := h
  refine Bearing.azimuth_eq_ok (hbody.value_eq_ok ?_ hshort)
  have hinfix := List.infix_append (s₁ ++ p ++ s₂) body (e ++ s₃ ++ last)
  simpa only [List.append_assoc] using hinfix

end Bearing

/-! ## The longest reading -/

/-- A result is what the longest of some readings is worth. Where there is a reading there is a
longest, and where there is none, the result is a refusal. -/
structure FollowsLongest {ρ α : Type} (IsReading IsLongest : ρ → Prop)
    (worth : ρ → Except Error α) (refusal : Error) (result : Except Error α) : Prop where
  longest : ∀ r, IsLongest r → result = worth r
  someLongest : ∀ r, IsReading r → ∃ r', IsLongest r'
  noReading : (∀ r, ¬IsReading r) → result = .error refusal

section Longest

variable {ρ α : Type} {IsReading IsLongest : ρ → Prop} {worth worth' : ρ → Except Error α}
  {refusal : Error} {result : Except Error α} {read : Option ρ}

theorem followsLongest_of_read
    (hresult : result = match read with | some r => worth r | none => .error refusal)
    (hsome : ∀ r, read = some r ↔ IsLongest r) (hnone : read = none ↔ ∀ r, ¬IsReading r) :
    FollowsLongest IsReading IsLongest worth refusal result where
  longest r hr := by rw [hresult, (hsome r).mpr hr]
  someLongest r hr := by
    cases hread : read with
    | some r' => exact ⟨r', (hsome r').mp hread⟩
    | none => exact absurd hr (hnone.mp hread r)
  noReading h := by rw [hresult, hnone.mpr h]

theorem FollowsLongest.congr (h : FollowsLongest IsReading IsLongest worth refusal result)
    (hworth : ∀ r, IsLongest r → worth r = worth' r) :
    FollowsLongest IsReading IsLongest worth' refusal result :=
  ⟨fun r hr => (h.longest r hr).trans (hworth r hr), h.someLongest, h.noReading⟩

end Longest

/-! ## Texts -/

variable {s : String}

theorem followsLongest_angle (s : String) :
    FollowsLongest (Dms.IsReading s.toList) (Dms.IsLongest s.toList) (Dms.value .double)
      (.badAngle (Text.quoted s)) (angleOfValue .double (.text s)) := by
  refine followsLongest_of_read ?_ (fun _ => Dms.read_eq_some_iff) Dms.read_eq_none_iff
  have htext : (Value.text s).plainText = .ok s := rfl
  simp only [angleOfValue, htext, bind, Except.bind]
  cases Dms.read s.toList <;> rfl

theorem followsLongest_bearing {α : Type} (k : Reckoning α)
    (h : isAzimuth s.toList = false) :
    FollowsLongest (Bearing.IsReading s.toList) (Bearing.IsLongest s.toList)
      (Bearing.azimuth k) (.badBearing (Text.quoted s)) (bearingOfText k s) := by
  refine followsLongest_of_read ?_ (fun _ => Bearing.read_eq_some_iff) Bearing.read_eq_none_iff
  rw [bearingOfText, h, if_neg Bool.false_ne_true]
  cases Bearing.read s.toList <;> rfl

/-- An azimuth is read as a numeral, or refused as one. -/
theorem bearingOfText_of_isAzimuth (h : isAzimuth s.toList = true) :
    bearingOfText .double s =
      match Decimal.read? s with
      | some x => .ok (Reckoning.double.wrap x)
      | none => .error (.notANumeral (Text.quoted s)) := by
  have hnumeral : Reckoning.double.numeral = Decimal.read? := rfl
  rw [bearingOfText, if_pos h, Reckoning.read, hnumeral]
  cases Decimal.read? s <;> rfl

/-- A plain decimal between white space is an azimuth, but only between white space that may
surround a numeral. -/
theorem bearingOfText_of_isBetween {p : Plain} {before after : List Char}
    (h : p.IsBetween before after s.toList) :
    bearingOfText .double s =
      if (before ++ after).all Text.isNumeralBlank then
        .ok (Reckoning.double.wrap p.value)
      else .error (.notANumeral (Text.quoted s)) := by
  rw [bearingOfText_of_isAzimuth (isAzimuth_iff.mpr ⟨p, before, after, h⟩)]
  split_ifs with hblank
  · obtain ⟨hbefore, hafter⟩ := List.forall_mem_append.mp (List.all_eq_true.mp hblank)
    rw [h.read?_eq_some hbefore hafter]
  · obtain ⟨c, hc, hnot⟩ := List.all_eq_false.mp (Bool.eq_false_iff.mpr hblank)
    rw [h.read?_eq_none hc (Bool.eq_false_iff.mpr hnot)]

/-- **How a text is written settles what it gives.** As an angle, the degrees of its longest
reading. As a bearing, the azimuth that it is as a plain decimal, or else the direction of its longest
reading. Otherwise it is refused. -/
theorem settled_by_writing (s : String) :
    FollowsLongest (Dms.IsReading s.toList) (Dms.IsLongest s.toList) (Dms.value .double)
      (.badAngle (Text.quoted s)) (angleOfValue .double (.text s)) ∧
    (Text.HasShortRuns s.toList →
      (∀ a : Dms, a.IsLongest s.toList → angleOfValue .double (.text s) = .ok a.inDegrees) ∧
      (∀ (p : Plain) (before after : List Char), p.IsBetween before after s.toList →
        bearingOfValue .double (.text s) =
          if (before ++ after).all Text.isNumeralBlank then
            .ok (Reckoning.double.wrap p.value)
          else .error (.notANumeral (Text.quoted s))) ∧
      ((∀ (p : Plain) (before after : List Char), ¬p.IsBetween before after s.toList) →
        FollowsLongest (Bearing.IsReading s.toList) (Bearing.IsLongest s.toList)
          (fun b => .ok (Reckoning.double.wrap b.direction)) (.badBearing (Text.quoted s))
          (bearingOfValue .double (.text s)))) := by
  have hangle := followsLongest_angle s
  refine ⟨hangle, fun hshort => ⟨fun a ha => ?_, fun p before after h => ?_, fun h => ?_⟩⟩
  · exact (hangle.longest a ha).trans (ha.1.value_eq_ok hshort)
  · exact bearingOfText_of_isBetween h
  · have hazimuth : isAzimuth s.toList = false := by
      rw [Bool.eq_false_iff, ne_eq, isAzimuth_iff]
      rintro ⟨p, before, after, hbetween⟩
      exact h p before after hbetween
    exact (followsLongest_bearing .double hazimuth).congr fun b hb => hb.1.azimuth_eq_ok hshort

/-- Where digits can be split in several ways, the degrees take as many as they can. -/
theorem settled_by_writing_split :
    angleOfValue .double (.text "453015") =
        Dms.value .double ⟨['4', '5', '3', '0'], ['1'], ['5']⟩ ∧
      bearingOfValue .double (.text "-45.") =
        .ok (Reckoning.double.wrap (Plain.value ⟨['-'], ['4', '5'], some []⟩)) ∧
      bearingOfValue .double (.text "ſ453015 w") = .ok (Reckoning.double.wrap
        (Bearing.direction ⟨some .south, ⟨['4', '5', '3', '0'], ['1'], ['5']⟩, some .west⟩)) := by
  have hshort (s : String) (h : s.toList.length < 300) : Text.HasShortRuns s.toList :=
    Text.hasShortRuns_of_length h
  refine ⟨?_, ?_, ?_⟩
  · exact (settled_by_writing "453015").1.longest _ (Dms.read_eq_some_iff.mp rfl)
  · have hbetween : Plain.IsBetween ⟨['-'], ['4', '5'], some []⟩ [] [] "-45.".toList :=
      ⟨⟨.inr (.inr rfl), by decide, by decide, by rintro _ ⟨⟩; exact nofun⟩, nofun, nofun, rfl⟩
    exact (((settled_by_writing "-45.").2 (hshort _ (by decide))).2.1 _ _ _ hbetween).trans
      (if_pos rfl)
  · have hother (p : Plain) (before after : List Char) :
        ¬p.IsBetween before after "ſ453015 w".toList := fun h =>
      absurd (isAzimuth_iff.mpr ⟨p, before, after, h⟩) (by decide)
    exact (((settled_by_writing "ſ453015 w").2 (hshort _ (by decide))).2.2 hother).longest _
      (Bearing.read_eq_some_iff.mp rfl)

/-- An azimuth behind an information separator is recognized, and then none is given. -/
theorem separator_spoils_azimuth :
    Text.HasShortRuns "\x1c45".toList ∧
      Plain.IsBetween ⟨[], ['4', '5'], none⟩ ['\x1c'] [] "\x1c45".toList ∧
      ∀ x, bearingOfValue .double (.text "\x1c45") ≠ .ok x := by
  have hbetween : Plain.IsBetween ⟨[], ['4', '5'], none⟩ ['\x1c'] [] "\x1c45".toList :=
    ⟨⟨.inl rfl, by decide, by decide, nofun⟩, List.forall_mem_singleton.mpr (by decide), nofun,
      rfl⟩
  have hrefused : bearingOfText .double "\x1c45" = .error (.notANumeral (Text.quoted "\x1c45")) :=
    (bearingOfText_of_isBetween hbetween).trans (if_neg (by decide))
  refine ⟨Text.hasShortRuns_of_length (by decide), hbetween, fun x h => ?_⟩
  change bearingOfText .double "\x1c45" = .ok x at h
  rw [hrefused] at h
  cases h

end MetesBounds
