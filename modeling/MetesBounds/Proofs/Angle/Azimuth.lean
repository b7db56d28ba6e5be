import MetesBounds.Proofs.Decimal.Plain

/-!
# `Angle/Azimuth` — which texts are azimuths

A text that is a plain decimal between white space is taken for an azimuth, and no other is.

Main statement: `isAzimuth_iff`.
-/

set_option autoImplicit false

namespace MetesBounds

open Text (IsDigits)
open Decimal

/-- Whether characters are digits, with an optional point and further digits, and white space. -/
def isUnsignedAzimuth (cs : List Char) : Bool :=
  let rest :=
    match cs.dropWhile Text.isDigit with
    | '.' :: rest => rest.dropWhile Text.isDigit
    | rest => rest
  !(cs.takeWhile Text.isDigit).isEmpty && rest.all Text.isBlank

theorem isAzimuth_eq (cs : List Char) :
    isAzimuth cs = isUnsignedAzimuth (splitSign (cs.dropWhile Text.isBlank)).2 := by
  rw [isAzimuth]
  generalize cs.dropWhile Text.isBlank = ds
  split
  · rfl
  · rfl
  · next hplus hminus =>
    rw [splitSign]
    · rfl
    · exact hminus
    · exact hplus

/-- White space begins with no digit. -/
theorem head?_not_isDigit {after : List Char} (h : ∀ c ∈ after, Text.isBlank c = true) (c : Char)
    (hc : after.head? = some c) : Text.isDigit c = false :=
  Text.isDigit_of_isBlank (h c (List.mem_of_mem_head? hc))

theorem isUnsignedAzimuth_iff {cs : List Char} : isUnsignedAzimuth cs = true ↔
    ∃ whole fraction after, whole ≠ [] ∧ IsDigits whole ∧ (∀ ds, fraction = some ds → IsDigits ds) ∧
      (∀ c ∈ after, Text.isBlank c = true) ∧ cs = whole ++ pointed fraction ++ after := by
  have hrun (cs : List Char) : IsDigits (cs.takeWhile Text.isDigit) :=
    List.all_eq_true.mp List.all_takeWhile
  have hsplit (cs : List Char) :
      cs = cs.takeWhile Text.isDigit ++ cs.dropWhile Text.isDigit :=
    List.takeWhile_append_dropWhile.symm
  rw [isUnsignedAzimuth, Bool.and_eq_true, Bool.not_eq_true', List.isEmpty_eq_false_iff,
    List.all_eq_true]
  constructor
  · rintro ⟨hne, hblank⟩
    split at hblank
    · next rest hrest =>
      refine ⟨_, some (rest.takeWhile Text.isDigit), _, hne, hrun cs, ?_, hblank, ?_⟩
      · rintro _ ⟨⟩
        exact hrun rest
      · rw [List.append_assoc, pointed, List.cons_append, ← hsplit, ← hrest, ← hsplit]
    · next rest hrest =>
      refine ⟨_, none, _, hne, hrun cs, ?_, hblank, ?_⟩
      · rintro _ ⟨⟩
      · rw [pointed, List.append_nil, ← hsplit]
  · rintro ⟨whole, fraction, after, hne, hwhole, hfraction, hafter, rfl⟩
    have hstop := head?_not_isDigit hafter
    cases fraction with
    | none =>
      obtain ⟨htake, hdrop⟩ := Text.span_append hwhole hstop
      rw [pointed, List.append_nil, htake, hdrop]
      refine ⟨hne, ?_⟩
      split
      · exact absurd (hafter '.' List.mem_cons_self) (by decide)
      · exact hafter
    | some ds =>
      have hpoint : ∀ c, ('.' :: (ds ++ after)).head? = some c → Text.isDigit c = false := by
        rintro _ ⟨⟩
        decide
      obtain ⟨htake, hdrop⟩ := Text.span_append hwhole hpoint
      obtain ⟨-, hdrop'⟩ := Text.span_append (hfraction ds rfl) hstop
      rw [pointed, List.append_assoc, List.cons_append, htake, hdrop]
      refine ⟨hne, ?_⟩
      change ∀ c ∈ (ds ++ after).dropWhile Text.isDigit, _
      rw [hdrop']
      exact hafter
/-- **A text is an azimuth where it is a plain decimal between white space.** -/
theorem isAzimuth_iff {cs : List Char} :
    isAzimuth cs = true ↔ ∃ (p : Plain) (before after : List Char), p.IsBetween before after cs := by
  rw [isAzimuth_eq, isUnsignedAzimuth_iff]
  constructor
  · rintro ⟨whole, fraction, after, hne, hwhole, hfraction, hafter, hcs⟩
    obtain ⟨sign, hsign, hsplit⟩ := exists_sign (cs.dropWhile Text.isBlank)
    refine ⟨⟨sign, whole, fraction⟩, cs.takeWhile Text.isBlank, after,
      ⟨hsign, hne, hwhole, hfraction⟩, List.all_eq_true.mp List.all_takeWhile, hafter, ?_⟩
    rw [Plain.body, List.append_assoc, List.append_assoc, ← hcs, ← hsplit,
      List.takeWhile_append_dropWhile]
  · rintro ⟨p, before, after, hw, hbefore, hafter, rfl⟩
    refine ⟨p.whole, p.fraction, after, hw.someWhole, hw.whole, hw.fraction, hafter, ?_⟩
    rw [List.append_assoc, (Text.span_append hbefore (hw.head?_body after)).2,
      hw.splitSign_body after, List.append_assoc]
end MetesBounds
