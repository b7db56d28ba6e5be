import MetesBounds.Procedure

/-!
# `Registry/Fitting` — how many arguments fit

A call gives its arguments by their place. They fit some parameters if none of these has to be
given by name, if every parameter that has to be given gets one, and if none is left over. The
parameters of a procedure stand in an order that its signature keeps to, and among parameters in
that order it is enough to count.

Main statements: `Procedure.misfit?_eq_none` (the check finds nothing wrong just where a number of
arguments fits) and `Procedure.hasRoom_iff`.
-/

set_option autoImplicit false

namespace MetesBounds

/-- Whether a parameter takes one argument by its place. -/
def Role.isSingle : Role → Bool
  | required | optional => true
  | rest | byName | optionalByName => false

/-- Where the parameters of a role stand among those of a procedure. -/
def Role.rank : Role → Nat
  | required => 0
  | optional => 1
  | rest => 2
  | byName | optionalByName => 3

/-- Parameters in the order that a signature keeps to. -/
def Arranged (ps : List Parameter) : Prop := ps.Pairwise fun p q => p.role.rank ≤ q.role.rank

instance (ps : List Parameter) : Decidable (Arranged ps) := by unfold Arranged; infer_instance

/-- A number of arguments that some parameters take, all by their place. -/
structure Fits (ps : List Parameter) (n : Nat) : Prop where
  unnamed : ∀ p ∈ ps, p.role ≠ .byName
  enough : ps.countP (fun p => p.role = .required) ≤ n
  room : (∃ p ∈ ps, p.role = .rest) ∨ n ≤ ps.countP fun p => p.role.isSingle

instance (ps : List Parameter) (n : Nat) : Decidable (Fits ps n) :=
  decidable_of_iff ((∀ p ∈ ps, p.role ≠ .byName) ∧ ps.countP (fun p => p.role = .required) ≤ n ∧
      ((∃ p ∈ ps, p.role = .rest) ∨ n ≤ ps.countP fun p => p.role.isSingle))
    ⟨fun ⟨unnamed, enough, room⟩ => ⟨unnamed, enough, room⟩,
      fun ⟨unnamed, enough, room⟩ => ⟨unnamed, enough, room⟩⟩

namespace Procedure

section Fitting

variable {p : Parameter} {ps : List Parameter} {n : Nat}

theorem needsName?_eq_none : needsName? ps = none ↔ ∀ p ∈ ps, p.role ≠ .byName := by
  induction ps with
  | nil => simp [needsName?]
  | cons p rest ih =>
    rw [needsName?, List.forall_mem_cons, ← ih]
    split
    · next h => simp [h]
    · next h => simp [h]

/-- Behind a parameter that may be left out, none has to be given. -/
theorem countP_required_eq_zero (h : ∀ q ∈ ps, 1 ≤ q.role.rank) :
    ps.countP (fun p => p.role = .required) = 0 := by
  rw [List.countP_eq_zero]
  intro q hq hrole
  have hrank := h q hq
  rw [of_decide_eq_true hrole] at hrank
  exact absurd hrank (by decide)

/-- Behind a parameter that is given by name, none is given by its place. -/
theorem countP_isSingle_eq_zero (h : ∀ q ∈ ps, 3 ≤ q.role.rank) :
    ps.countP (fun p => p.role.isSingle) = 0 := by
  rw [List.countP_eq_zero]
  intro q hq
  have hrank := h q hq
  cases hrole : q.role with
  | required | optional => rw [hrole] at hrank; exact absurd hrank (by decide)
  | rest | byName | optionalByName => decide

theorem fits_nil : Fits [] n ↔ n = 0 := by
  constructor
  · rintro ⟨-, -, ⟨q, hq, -⟩ | room⟩
    · cases hq
    · exact Nat.le_zero.mp room
  · intro hn
    subst hn
    exact ⟨nofun, Nat.le_refl 0, .inr (Nat.le_refl 0)⟩

/-- An argument for a parameter that takes one, where the arguments left are enough for the rest. -/
theorem fits_cons_single (hp : p.role.isSingle = true)
    (h : p.role = .required ∨ ps.countP (fun p => p.role = .required) = 0) :
    Fits (p :: ps) (n + 1) ↔ Fits ps n := by
  have hname : p.role ≠ .byName := by intro hrole; rw [hrole] at hp; cases hp
  have hrest : p.role ≠ .rest := by intro hrole; rw [hrole] at hp; cases hp
  have hroom : (∃ q ∈ p :: ps, q.role = .rest) ↔ ∃ q ∈ ps, q.role = .rest := by
    simp [hrest]
  constructor
  · rintro ⟨unnamed, enough, room⟩
    refine ⟨(List.forall_mem_cons.mp unnamed).2, ?_, ?_⟩
    · rcases h with hrole | hnone
      · simpa [List.countP_cons, hrole] using enough
      · rw [hnone]
        exact Nat.zero_le n
    · rw [hroom] at room
      simpa [List.countP_cons, hp] using room
  · rintro ⟨unnamed, enough, room⟩
    refine ⟨List.forall_mem_cons.mpr ⟨hname, unnamed⟩, ?_, ?_⟩
    · rw [List.countP_cons]
      split <;> omega
    · rw [hroom]
      simpa [List.countP_cons, hp] using room

/-- Without parameters that have to be given, no argument has to be. -/
theorem fits_zero (h : ps.countP (fun p => p.role = .required) = 0) :
    Fits ps 0 ↔ ∀ p ∈ ps, p.role ≠ .byName :=
  ⟨Fits.unnamed, fun unnamed => ⟨unnamed, Nat.le_of_eq h, .inr (Nat.zero_le _)⟩⟩

/-- A parameter that takes what is left takes any number. -/
theorem fits_of_rest (hp : ∃ p ∈ ps, p.role = .rest)
    (h : ps.countP (fun p => p.role = .required) = 0) :
    Fits ps n ↔ ∀ p ∈ ps, p.role ≠ .byName :=
  ⟨Fits.unnamed, fun unnamed => ⟨unnamed, by rw [h]; exact Nat.zero_le n, .inl hp⟩⟩

/-- Parameters that are given by name take no argument by its place. -/
theorem not_fits_succ (h : ∀ q ∈ ps, 3 ≤ q.role.rank) : ¬Fits ps (n + 1) := by
  rintro ⟨-, -, ⟨q, hq, hrole⟩ | room⟩
  · have hrank := h q hq
    rw [hrole] at hrank
    exact absurd hrank (by decide)
  · rw [countP_isSingle_eq_zero h] at room
    exact absurd room (Nat.not_succ_le_zero n)

/-- Where no argument is given and none has to be, only a parameter that has to be given by name is
wrong. -/
theorem misfit?_zero (h : ps.countP (fun p => p.role = .required) = 0) :
    misfit? ps 0 = needsName? ps := by
  cases ps with
  | nil => rfl
  | cons p rest =>
    cases hrole : p.role with
    | required =>
      exact absurd (decide_eq_true hrole) (List.countP_eq_zero.mp h p List.mem_cons_self)
    | optional | rest | byName | optionalByName => simp [misfit?, needsName?, hrole]

/-- **The check finds nothing wrong just where a number of arguments fits.** -/
theorem misfit?_eq_none (h : Arranged ps) (n : Nat) : misfit? ps n = none ↔ Fits ps n := by
  induction ps generalizing n with
  | nil =>
    rw [fits_nil]
    cases n with
    | zero => exact iff_of_true rfl rfl
    | succ n => exact iff_of_false nofun (Nat.succ_ne_zero n)
  | cons p rest ih =>
    obtain ⟨hp, hrest⟩ := List.pairwise_cons.mp h
    -- the role of the first parameter bounds the ranks of all
    have hranks : ∀ q ∈ p :: rest, p.role.rank ≤ q.role.rank :=
      List.forall_mem_cons.mpr ⟨Nat.le_refl _, hp⟩
    cases n with
    | zero =>
      by_cases hrole : p.role = .required
      · have hnot : ¬Fits (p :: rest) 0 := by
          intro hfits
          simpa [hrole] using hfits.enough
        simp [misfit?, hrole, hnot]
      · have hpos : 1 ≤ p.role.rank := by
          cases hcase : p.role with
          | required => exact absurd hcase hrole
          | optional | rest | byName | optionalByName => decide
        have hnone := countP_required_eq_zero fun q hq => Nat.le_trans hpos (hranks q hq)
        rw [misfit?_zero hnone, needsName?_eq_none, fits_zero hnone]
    | succ n =>
      cases hrole : p.role with
      | required =>
        rw [fits_cons_single (by rw [hrole]; rfl) (.inl hrole), ← ih hrest n]
        simp only [misfit?, hrole]
      | optional =>
        rw [hrole] at hp
        rw [fits_cons_single (by rw [hrole]; rfl) (.inr (countP_required_eq_zero hp)),
          ← ih hrest n]
        simp only [misfit?, hrole]
      | rest =>
        rw [hrole] at hranks
        have hnone := countP_required_eq_zero fun q hq => Nat.le_trans (by decide) (hranks q hq)
        rw [fits_of_rest ⟨p, List.mem_cons_self, hrole⟩ hnone, List.forall_mem_cons,
          ← needsName?_eq_none]
        simp [misfit?, hrole]
      | byName | optionalByName =>
        rw [hrole] at hranks
        simp [misfit?, hrole, not_fits_succ hranks]

/-- There is room for one argument if any parameter takes arguments by their place. -/
theorem hasRoom_iff (h : Arranged ps) : hasRoom ps = true ↔ ∃ p ∈ ps, p.role.isPlaced = true := by
  cases ps with
  | nil => simp [hasRoom]
  | cons p rest =>
    obtain ⟨hp, -⟩ := List.pairwise_cons.mp h
    refine ⟨fun hroom => ⟨p, List.mem_cons_self, hroom⟩, ?_⟩
    rintro ⟨q, hq, hplaced⟩
    rcases List.mem_cons.mp hq with rfl | hq
    · exact hplaced
    · have hrank := hp q hq
      cases hrole : p.role with
      | required | optional | rest => simp [hasRoom, Role.isPlaced, hrole]
      | byName | optionalByName =>
        cases hq : q.role with
        | required | optional | rest => rw [hrole, hq] at hrank; exact absurd hrank (by decide)
        | byName | optionalByName => rw [hq] at hplaced; cases hplaced

end Fitting

end Procedure

end MetesBounds
