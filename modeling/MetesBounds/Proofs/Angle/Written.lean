import Mathlib
import MetesBounds.Proofs.Angle.Texts
import MetesBounds.Proofs.Calculation.Seconds

/-!
# `Angle/Written` — what is written as a bearing is read back

A bearing is written with every mark that there is, and no digit stands next to a digit of another
part: so it can be read in one way only that takes all of its digits, and the degrees, minutes,
seconds and letters that are read are those that were written.

Main statement: `Bearing.isLongest_write`.
-/

set_option autoImplicit false

namespace MetesBounds

open Text (IsDigits)

/-! ## Numbers in digits -/

namespace Text

theorem digitValue?_of_isDigit {c : Char} (h : c.isDigit = true) :
    digitValue? c = some (c.toNat - 48) := by
  have hrange : 48 ≤ c.toNat ∧ c.toNat ≤ 57 := Char.isDigit_iff_toNat.mp h
  have hfirst : (decide (48 ≤ c.toNat) && decide (c.toNat < 48 + 10)) = true := by
    rw [Bool.and_eq_true, decide_eq_true_eq, decide_eq_true_eq]
    omega
  have hfind : digitZeros.find? (fun z => z ≤ c.toNat && c.toNat < z + 10) = some 48 :=
    List.find?_cons_of_pos hfirst
  rw [digitValue?, hfind]
  rfl

theorem isDigits_toDigits (n : ℕ) : IsDigits (Nat.toDigits 10 n) := by
  intro c hc
  have hdigit := Nat.isDigit_of_mem_toDigits (by decide) (by decide) hc
  rw [isDigit, digitValue?_of_isDigit hdigit]
  rfl

/-- A number that is written in digits is read back. -/
theorem digitsValue_toDigits (n : ℕ) : digitsValue (Nat.toDigits 10 n) = n := by
  have hread := Nat.ofDigitChars_ten_toDigits (n := n)
  rw [Nat.ofDigitChars] at hread
  rw [digitsValue]
  refine (List.foldl_ext _ _ 0 fun k c hc => ?_).trans hread
  have hdigit := Nat.isDigit_of_mem_toDigits (by decide) (by decide) hc
  rw [digitValue, digitValue?_of_isDigit hdigit]
  rfl

end Text

namespace Dms

theorem isShort_toDigits {n : ℕ} (h : n < 100) : IsShort (Nat.toDigits 10 n) := by
  have hpos := Nat.length_toDigits_pos (b := 10) (n := n)
  have hle := (Nat.length_toDigits_le_iff (b := 10) (n := n) (k := 2) (by decide) (by decide)).mpr h
  exact ⟨by omega, Text.isDigits_toDigits n⟩

/-- Seconds of arc in degrees, minutes and seconds. -/
def ofSeconds (t : ℕ) : Dms :=
  ⟨Nat.toDigits 10 (t / 3600), Nat.toDigits 10 (t % 3600 / 60), Nat.toDigits 10 (t % 60)⟩

theorem isWritten_ofSeconds (t : ℕ) : (ofSeconds t).IsWritten where
  someDegrees := Nat.toDigits_ne_nil
  degrees := Text.isDigits_toDigits _
  minutes := isShort_toDigits (by omega)
  seconds := isShort_toDigits (by omega)

/-- The number of degrees, exactly. -/
def exact (a : Dms) : ℚ :=
  Text.digitsValue a.degrees + Text.digitsValue a.minutes / 60 + Text.digitsValue a.seconds / 3600

theorem exact_ofSeconds (t : ℕ) : (ofSeconds t).exact = t / 3600 := by
  have hsplit : t = 3600 * (t / 3600) + 60 * (t % 3600 / 60) + t % 60 := by omega
  have hsplit : (t : ℚ) = 3600 * (t / 3600 : ℕ) + 60 * (t % 3600 / 60 : ℕ) + (t % 60 : ℕ) := by
    exact_mod_cast hsplit
  rw [exact, ofSeconds]
  simp only [Text.digitsValue_toDigits]
  rw [hsplit]
  ring

theorem toList_writeDms (t : ℕ) : (Bearing.writeDms t).toList =
    (ofSeconds t).degrees ++ ['°'] ++ (ofSeconds t).minutes ++ ['\x27'] ++ (ofSeconds t).seconds ++
      ['\x22'] := by
  have hdigits (n : ℕ) : (toString n).toList = Nat.toDigits 10 n := Nat.toList_repr
  rw [Bearing.writeDms]
  simp only [String.toList_append, hdigits]
  rfl

variable {a a' : Dms} {cs c₁ c₂ c₃ rest : List Char}

/-- An angle that takes every row of digits that it comes to takes more digits than any other. -/
theorem Leads.outreaches (h : a'.Leads cs rest) (hw : a.IsWritten) (hcs : cs = a.degrees ++ c₁)
    (h₁ : runLength c₁ = 0) (hc₁ : afterGap '°' c₁ = a.minutes ++ c₂) (h₂ : runLength c₂ = 0)
    (hc₂ : afterGap '\x27' c₂ = a.seconds ++ c₃) (h₃ : runLength c₃ = 0) : a.Outreaches a' := by
  have hrun {ds ds' c c' : List Char} (hds : IsDigits ds) (hds' : IsDigits ds')
      (h : ds ++ c = ds' ++ c') (hc : runLength c = 0) : ds'.length ≤ ds.length := by
    have hrun := congrArg runLength h
    rw [runLength_append hds, runLength_append hds'] at hrun
    omega
  obtain ⟨hw', c₁', c₂', c₃', hcs', hc₁', hc₂', -⟩ := h
  have hdegrees := hcs.symm.trans hcs'
  rcases Nat.lt_or_eq_of_le (hrun hw.degrees hw'.degrees hdegrees h₁) with hlt | heq
  · exact .inl hlt
  obtain ⟨-, rfl⟩ := List.append_inj hdegrees heq.symm
  have hminutes := hc₁.symm.trans hc₁'
  rcases Nat.lt_or_eq_of_le (hrun hw.minutes.2 hw'.minutes.2 hminutes h₂) with hlt | heq'
  · exact .inr ⟨heq, .inl hlt⟩
  obtain ⟨-, rfl⟩ := List.append_inj hminutes heq'.symm
  exact .inr ⟨heq, .inr ⟨heq', hrun hw.seconds.2 hw'.seconds.2 (hc₂.symm.trans hc₂') h₃⟩⟩

/-- What is written for an angle spells it. -/
theorem spells_ofSeconds (t : ℕ) : (ofSeconds t).Spells (Bearing.writeDms t).toList := by
  refine ⟨isWritten_ofSeconds t, ['°'], [], ['\x27'], [], ['\x22'], [], .inr rfl, nofun, .inr rfl,
    nofun, .inr rfl, nofun, ?_⟩
  simp only [toList_writeDms, List.append_nil]

/-- There is no other way to read it that takes as many digits. -/
theorem outreaches_ofSeconds {t : ℕ} {behind : List Char}
    (h : a.Leads ((Bearing.writeDms t).toList ++ behind) rest) : (ofSeconds t).Outreaches a := by
  have hw := isWritten_ofSeconds t
  have hgap (mark : Char) {ds : List Char} (hds : IsShort ds) (behind : List Char) :
      afterGap mark (mark :: (ds ++ behind)) = ds ++ behind := by
    rw [afterGap, dropMark, beq_self_eq_true, if_pos rfl,
      dropSpaces_of_runLength (hds.runLength_pos behind)]
  have hrun (mark : Char) (hmark : Text.isDigit mark = false) (cs : List Char) :
      runLength (mark :: cs) = 0 := by
    rw [runLength, List.takeWhile_cons, hmark, if_neg Bool.false_ne_true]
    rfl
  have hcs : (Bearing.writeDms t).toList ++ behind = (ofSeconds t).degrees ++ '°' ::
      ((ofSeconds t).minutes ++ '\x27' :: ((ofSeconds t).seconds ++ '\x22' :: behind)) := by
    simp only [toList_writeDms, List.append_assoc, List.cons_append, List.nil_append]
  exact h.outreaches hw hcs (hrun _ (by decide) _) (hgap _ hw.minutes _) (hrun _ (by decide) _)
    (hgap _ hw.seconds _) (hrun _ (by decide) _)

end Dms

namespace Bearing

open Dms

variable {t : ℕ}

/-- An angle between letters is read as it is written. -/
theorem isLongest_writeDms {pole : Option Pole} {side : Option Side} {p e : List Char}
    (hp : Names Pole.letters pole p) (he : Names Side.letters side e) (t : ℕ) :
    IsLongest (p ++ (writeDms t).toList ++ e) ⟨pole, Dms.ofSeconds t, side⟩ := by
  have hspells := spells_ofSeconds t
  refine ⟨⟨[], p, [], (writeDms t).toList, e, [], [], nofun, hp, nofun, hspells, he, nofun,
    .inl rfl, by simp only [List.nil_append, List.append_nil]⟩, fun b' hb' => ?_⟩
  obtain ⟨-, rest, hlead, -⟩ := isReading_iff.mp hb'
  have hnil : IsSpaces [] := nofun
  have hfront := (splitPole_append hnil hp hnil (hspells.runLength_pos e)).2
  simp only [List.nil_append, List.append_nil, ← List.append_assoc] at hfront
  rw [hfront] at hlead
  exact outreaches_ofSeconds hlead

/-- The bearing that is written for seconds of arc. -/
def ofSeconds (quadrant : Bool) (t : ℕ) : Bearing :=
  if !quadrant then ⟨none, Dms.ofSeconds t, none⟩
  else if t ≤ 324000 then ⟨some .north, Dms.ofSeconds t, some .east⟩
  else if t ≤ 648000 then ⟨some .south, Dms.ofSeconds (648000 - t), some .east⟩
  else if t < 972000 then ⟨some .south, Dms.ofSeconds (t - 648000), some .west⟩
  else ⟨some .north, Dms.ofSeconds (1296000 - t), some .west⟩

/-- **What is written is read back**, and in no other way are as many digits taken. -/
theorem isLongest_write (quadrant : Bool) (t : ℕ) :
    IsLongest (write quadrant t).toList (ofSeconds quadrant t) := by
  have hletters {p : Pole} {e : Side} {front behind : String}
      (hp : Names Pole.letters (some p) front.toList)
      (he : Names Side.letters (some e) behind.toList) (t : ℕ) :
      IsLongest (front ++ writeDms t ++ behind).toList ⟨some p, Dms.ofSeconds t, some e⟩ := by
    rw [String.toList_append, String.toList_append]
    exact isLongest_writeDms hp he t
  unfold write ofSeconds
  split_ifs
  · have hpole : Names Pole.letters none [] := rfl
    have hside : Names Side.letters none [] := rfl
    have h := isLongest_writeDms hpole hside t
    rwa [List.nil_append, List.append_nil] at h
  · exact hletters ⟨'N', by decide, rfl⟩ ⟨'E', by decide, rfl⟩ t
  · exact hletters ⟨'S', by decide, rfl⟩ ⟨'E', by decide, rfl⟩ _
  · exact hletters ⟨'S', by decide, rfl⟩ ⟨'W', by decide, rfl⟩ _
  · exact hletters ⟨'N', by decide, rfl⟩ ⟨'W', by decide, rfl⟩ _

end Bearing

end MetesBounds
