import MetesBounds.Trail.Export

/-!
# `Trail/Counts` — the numbers of a run agree with its steps

A run counts its steps, and those of them that have found a point, as it goes. Its summary counts
the steps by kind. The first two are kept up by every step (`AuditRun.Counted.add`); the third is a
fold, which is described through what it makes of any counts to begin with.

Main statements: `AuditRun.get?_kindCounts` and `AuditRun.total_kindCounts`.
-/

set_option autoImplicit false

namespace MetesBounds

/-! ## Counting in a table -/

namespace Table

variable {κ : Type} [DecidableEq κ]

/-- All counts of a table together. -/
def total (t : Table κ Nat) : Nat := t.entries.foldr (fun e n => e.2 + n) 0

/-- To count one more under a key is to count one more in all. -/
theorem total_insert_succ (t : Table κ Nat) (k : κ) :
    (t.insert k ((t.get? k).getD 0 + 1)).total = t.total + 1 := by
  obtain ⟨entries⟩ := t
  simp only [total, insert, get?]
  induction entries with
  | nil => rfl
  | cons e rest ih =>
    by_cases he : e.1 = k
    · simp only [put, find?, if_pos he, Option.getD_some, List.foldr_cons]
      omega
    · simp only [put, find?, if_neg he, List.foldr_cons, ih]
      omega

end Table

namespace AuditRun

/-! ## Steps and points -/

/-- A run has counted its steps, and those of them that have found a point. -/
structure Counted (r : AuditRun) : Prop where
  recordCount : r.recordCount = r.steps.length
  pointCount : r.pointCount = r.steps.countP AuditStep.producedPoint

theorem counted_entered (id configHash time : String) : (entered id configHash time).Counted :=
  ⟨rfl, rfl⟩

theorem Counted.add {r : AuditRun} (h : r.Counted) (s : AuditStep) : (r.add s).Counted where
  recordCount := by rw [AuditRun.add, h.recordCount, List.length_append, List.length_singleton]
  pointCount := by
    rw [AuditRun.add, List.countP_append, List.countP_singleton, h.pointCount]
    dsimp only
    split <;> rfl

/-! ## Steps by kind -/

/-- What counting by kind makes of the counts before. -/
theorem get?_foldl_countKind (steps : List AuditStep) (counts : Table String Nat) (kind : String) :
    (steps.foldl (fun counts s => countKind counts s.kind) counts).get? kind =
      if steps.countP (·.kind == kind) = 0 then counts.get? kind
      else some ((counts.get? kind).getD 0 + steps.countP (·.kind == kind)) := by
  induction steps generalizing counts with
  | nil => rfl
  | cons s rest ih =>
    rw [List.foldl_cons, ih, countKind, Table.get?_insert, List.countP_cons]
    by_cases hk : kind = s.kind
    · subst hk
      simp only [BEq.rfl, if_true, Option.getD_some, if_neg (Nat.succ_ne_zero _)]
      split
      · next h => rw [h]
      · rw [Nat.add_assoc, Nat.add_comm 1]
    · have hne : (s.kind == kind) = false := beq_eq_false_iff_ne.mpr fun h => hk h.symm
      simp only [hk, hne, if_false, Bool.false_eq_true, Nat.add_zero]

theorem total_foldl_countKind (steps : List AuditStep) (counts : Table String Nat) :
    (steps.foldl (fun counts s => countKind counts s.kind) counts).total =
      counts.total + steps.length := by
  induction steps generalizing counts with
  | nil => rfl
  | cons s rest ih =>
    rw [List.foldl_cons, ih, countKind, Table.total_insert_succ, List.length_cons]
    omega

/-- **A summary has a count for every kind that a step has**, and it is how many have it. -/
theorem get?_kindCounts (r : AuditRun) (kind : String) : r.kindCounts.get? kind =
    if r.steps.countP (·.kind == kind) = 0 then none
    else some (r.steps.countP (·.kind == kind)) := by
  rw [kindCounts, get?_foldl_countKind, Table.get?_empty, Option.getD_none, Nat.zero_add]

/-- **The counts of a summary are those of all steps.** -/
theorem total_kindCounts (r : AuditRun) : r.kindCounts.total = r.steps.length := by
  rw [kindCounts, total_foldl_countKind]
  exact Nat.zero_add _

end AuditRun

end MetesBounds
