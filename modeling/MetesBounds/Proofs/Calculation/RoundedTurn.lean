import MetesBounds.Proofs.Calculation.Exact

/-!
# `Calculation/RoundedTurn` — an angle within one turn, however sums are rounded

What is left of an angle after whole turns is worked out exactly, and only the turn that is added
below zero is rounded. Nothing about doubles is needed for an angle to come out within one turn:
any rounding does that keeps the order of numbers and leaves none and a whole turn as they are. A
small angle below zero may then round up to a whole turn, which is why a whole turn is taken for
none.

Main statement: `Reckoning.wrap_rounding`.
-/

set_option autoImplicit false

namespace MetesBounds

namespace Reckoning

/-- A rounding that keeps the order of numbers, and leaves none and a whole turn as they are. -/
structure IsRounding (round : ℚ → ℚ) : Prop where
  monotone : Monotone round
  zero : round 0 = 0
  turn : round 360 = 360

/-- The arithmetic of rational numbers with sums that are rounded. -/
def rounding (round : ℚ → ℚ) : Reckoning ℚ :=
  { exact with add := fun x y => round (x + y) }

/-- A turn that is added to what is left of an angle needs no rounding. -/
def IsUnrounded (round : ℚ → ℚ) (x : ℚ) : Prop :=
  exact.withinTurn x < 0 → round (exact.withinTurn x + 360) = exact.withinTurn x + 360

section Rounding

variable {round : ℚ → ℚ} {x : ℚ}

/-- What is left of an angle after whole turns, a turn added to it below zero. -/
def fromZero (round : ℚ → ℚ) (x : ℚ) : ℚ :=
  if exact.withinTurn x < 0 then round (exact.withinTurn x + 360) else exact.withinTurn x

theorem wrap_rounding_eq (round : ℚ → ℚ) (x : ℚ) :
    (rounding round).wrap x = if 360 ≤ fromZero round x then 0 else fromZero round x := by
  have hless (r : ℚ) : exact.less r (exact.small 0) = true ↔ r < 0 := decide_eq_true_iff
  have hatMost (r : ℚ) : exact.atMost (exact.small 360) r = true ↔ 360 ≤ r := decide_eq_true_iff
  simp only [wrap, fromZero, rounding, hless, hatMost]
  rfl

/-- Rounding takes nothing below zero, and nothing over a whole turn. -/
theorem IsRounding.fromZero_mem (h : IsRounding round) (x : ℚ) :
    fromZero round x ∈ Set.Icc 0 360 := by
  obtain ⟨hlow, hhigh⟩ := abs_lt.mp (abs_withinTurn_lt x)
  rw [fromZero]
  split_ifs with hneg
  · constructor
    · calc (0 : ℚ) = round 0 := h.zero.symm
        _ ≤ round (exact.withinTurn x + 360) := h.monotone (by linarith)
    · calc round (exact.withinTurn x + 360) ≤ round 360 := h.monotone (by linarith)
        _ = 360 := h.turn
  · exact ⟨not_lt.mp hneg, hhigh.le⟩

/-- A whole turn comes out as none, and nothing else is changed after the turn is added. -/
theorem IsRounding.wrap_eq (h : IsRounding round) (x : ℚ) :
    (rounding round).wrap x = if fromZero round x = 360 then 0 else fromZero round x := by
  have hwhole : 360 ≤ fromZero round x ↔ fromZero round x = 360 :=
    ⟨fun hle => le_antisymm (h.fromZero_mem x).2 hle, fun heq => heq.ge⟩
  rw [wrap_rounding_eq]
  simp only [hwhole]

theorem IsRounding.wrap_mem (h : IsRounding round) (x : ℚ) :
    (rounding round).wrap x ∈ Set.Ico 0 360 := by
  obtain ⟨hlow, hhigh⟩ := h.fromZero_mem x
  rw [h.wrap_eq]
  split_ifs with hwhole
  · exact ⟨le_rfl, by norm_num⟩
  · exact ⟨hlow, lt_of_le_of_ne hhigh hwhole⟩

/-- Nothing is taken from an angle within one turn. -/
theorem withinTurn_of_mem (hx : x ∈ Set.Ico 0 360) : exact.withinTurn x = x := by
  obtain ⟨hlow, hhigh⟩ := hx
  refine withinTurn_eq (k := 0) (by simp) ?_ id le_of_lt
  rwa [abs_of_nonneg hlow]

/-- Nothing is added to an angle within one turn, so that nothing is rounded. -/
theorem wrap_rounding_of_mem (round : ℚ → ℚ) (hx : x ∈ Set.Ico 0 360) :
    (rounding round).wrap x = x := by
  have hsame : fromZero round x = x := by
    rw [fromZero, withinTurn_of_mem hx, if_neg (not_lt.mpr hx.1)]
  rw [wrap_rounding_eq, hsame, if_neg (not_le.mpr hx.2)]

/-- Where nothing is rounded an angle comes out as it does exactly. -/
theorem IsUnrounded.wrap_eq (hx : IsUnrounded round x) :
    (rounding round).wrap x = exact.wrap x := by
  have hsame : fromZero round x = fromZero id x := by
    rw [fromZero, fromZero]
    split_ifs with hneg
    · exact hx hneg
    · rfl
  rw [wrap_rounding_eq, hsame]
  exact (wrap_rounding_eq id x).symm

end Rounding

/-- **However sums are rounded, an angle comes out within one turn.** It is never a whole turn and
does not change when it is reduced to one turn again. Where nothing is rounded it differs from what
it was by whole turns, so that angles that differ by whole turns come out the same. -/
theorem wrap_rounding {round : ℚ → ℚ} (h : IsRounding round) (x : ℚ) :
    let wrap := (rounding round).wrap
    wrap x ∈ Set.Ico 0 360 ∧ wrap x ≠ 360 ∧ wrap (wrap x) = wrap x ∧
      (IsUnrounded round x → wrap x ≡ x [PMOD 360] ∧
        ∀ y, IsUnrounded round y → y ≡ x [PMOD 360] → wrap y = wrap x) := by
  intro wrap
  have hmem : wrap x ∈ Set.Ico 0 360 := h.wrap_mem x
  refine ⟨hmem, hmem.2.ne, wrap_rounding_of_mem round hmem, fun hx => ⟨?_, fun y hy hturns => ?_⟩⟩
  · change (rounding round).wrap x ≡ x [PMOD 360]
    rw [hx.wrap_eq]
    exact (wrap_exact x).2
  · change (rounding round).wrap y = (rounding round).wrap x
    rw [hx.wrap_eq, hy.wrap_eq]
    exact wrap_exact_eq_iff.mpr hturns

/-- Rounding up to whole degrees takes half a degree below north to a whole turn, which is none. A
whole degree below north and 719 degrees need no rounding and come out the same. -/
theorem wrap_rounding_ceil :
    IsRounding (fun z => ⌈z⌉) ∧ fromZero (fun z => ⌈z⌉) (-1 / 2) = 360 ∧
      (rounding fun z => ⌈z⌉).wrap (-1 / 2) ∈ Set.Ico 0 360 ∧
      (rounding fun z => ⌈z⌉).wrap 719 = (rounding fun z => ⌈z⌉).wrap (-1) := by
  have h : IsRounding (fun z => ⌈z⌉) :=
    ⟨fun x y hle => Int.cast_le.mpr (Int.ceil_mono hle), by simp, by norm_num⟩
  have hturns : (719 : ℚ) ≡ -1 [PMOD 360] :=
    AddCommGroup.modEq_iff_eq_add_zsmul.mpr ⟨-2, by norm_num⟩
  obtain ⟨-, -, -, hwest⟩ := wrap_rounding h (-1)
  exact ⟨h, by decide +kernel, (wrap_rounding h (-1 / 2)).1,
    (hwest fun _ => by decide +kernel).2 719 (fun _ => by decide +kernel) hturns⟩

end Reckoning

/-! ## Doubles -/

section Doubles

open Binary64 Reckoning

variable {x : Float}

/-- What is left of a double after whole turns is what is left of its worth. -/
theorem worth_turnRemainder (hx : x.isFinite = true) :
    worth (turnRemainder x) = exact.withinTurn (worth x) := by
  obtain ⟨-, habs, ⟨k, hk⟩, hsign, hsame⟩ := remainder_spec hx (n := 360) (by decide) (by decide)
  rw [Nat.cast_ofNat] at habs hk hsame
  rw [(turnRemainder_spec hx).2]
  refine (withinTurn_eq hk habs (fun h => ?_) fun h => ?_).symm
  · rcases h.eq_or_lt with hzero | hpos
    · rw [hsame (by rw [← hzero, abs_zero]; norm_num)]
      exact h
    · exact (mul_nonneg_iff_of_pos_left hpos).mp hsign
  · exact not_lt.mp fun hpos => absurd hsign (not_le.mpr (mul_neg_of_neg_of_pos h hpos))

/-- A double comes out within one turn as its worth does under any rounding that rounds the one sum
there is as doubles do. -/
theorem worth_wrap_eq {round : ℚ → ℚ} (hx : x.isFinite = true)
    (hsum : worth (turnRemainder x) < 0 →
      round (worth (turnRemainder x) + 360) = worth (turnRemainder x + Float.ofNat 360)) :
    worth (Reckoning.double.wrap x) = (rounding round).wrap (worth x) := by
  obtain ⟨hr, -⟩ := turnRemainder_spec hx
  obtain ⟨hlow, -⟩ := abs_lt.mp (abs_withinTurn_lt (worth x))
  obtain ⟨hzero, hzero'⟩ := worth_ofNat (n := 0) (by decide)
  obtain ⟨hturn, hturn'⟩ := worth_ofNat (n := 360) (by decide)
  rw [← worth_turnRemainder hx] at hlow
  have hnegative : turnRemainder x < Float.ofNat 0 ↔ worth (turnRemainder x) < 0 := by
    rw [lt_iff hr hzero, hzero', Nat.cast_zero]
  have hsame : let r := if turnRemainder x < Float.ofNat 0 then turnRemainder x + Float.ofNat 360
        else turnRemainder x
      r.isFinite = true ∧ worth r = fromZero round (worth x) := by
    rw [fromZero, ← worth_turnRemainder hx]
    by_cases h : worth (turnRemainder x) < 0
    · rw [if_pos h, if_pos (hnegative.mpr h), hsum h]
      exact ⟨(worth_add_turn hr hlow).1, rfl⟩
    · rw [if_neg h, if_neg (mt hnegative.mp h)]
      exact ⟨hr, rfl⟩
  rw [wrap_eq, wrap_rounding_eq]
  dsimp only at hsame ⊢
  generalize (if turnRemainder x < Float.ofNat 0 then turnRemainder x + Float.ofNat 360
    else turnRemainder x) = r at hsame ⊢
  obtain ⟨hfinite, hworth⟩ := hsame
  have hwhole : Float.ofNat 360 ≤ r ↔ 360 ≤ fromZero round (worth x) := by
    rw [le_iff hturn hfinite, hturn', hworth, Nat.cast_ofNat]
  by_cases h : 360 ≤ fromZero round (worth x)
  · rw [if_pos h, if_pos (hwhole.mpr h), hzero', Nat.cast_zero]
  · rw [if_neg h, if_neg (mt hwhole.mp h), hworth]

end Doubles

end MetesBounds
