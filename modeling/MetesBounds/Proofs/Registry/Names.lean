import MetesBounds.Registry

/-!
# `Registry/Names` — the names of a registry, in order

A table keeps one entry for each of its keys, whatever is put into it. So the names of a registry
are listed without repetition, and putting them in order makes every one come strictly before the
next.

Main statements: `Registry.pairwise_names`, `Registry.mem_names` and `Registry.length_names`.
-/

set_option autoImplicit false

namespace MetesBounds

/-! ## One entry for each key -/

namespace Table

variable {κ α : Type} [DecidableEq κ]

theorem mem_keys_iff {k : κ} {es : List (κ × α)} :
    k ∈ es.map Prod.fst ↔ (find? k es).isSome = true := by
  induction es with
  | nil => simp [find?]
  | cons e rest ih =>
    rw [List.map_cons, List.mem_cons, find?]
    by_cases he : e.1 = k
    · simp [he]
    · simp [he, ih, Ne.symm he]

theorem mem_keys {t : Table κ α} {k : κ} : k ∈ t.keys ↔ (t.get? k).isSome = true := mem_keys_iff

/-- What is put under a key adds no other key. -/
theorem mem_keys_put {k j : κ} {a : α} {es : List (κ × α)} :
    j ∈ (put k a es).map Prod.fst ↔ j = k ∨ j ∈ es.map Prod.fst := by
  rw [mem_keys_iff, mem_keys_iff, find?_put]
  by_cases hj : j = k
  · simp [hj]
  · simp [hj]

theorem nodup_keys_put {es : List (κ × α)} (h : (es.map Prod.fst).Nodup) (k : κ) (a : α) :
    ((put k a es).map Prod.fst).Nodup := by
  induction es with
  | nil => exact List.pairwise_singleton _ k
  | cons e rest ih =>
    obtain ⟨hnot, hrest⟩ := List.nodup_cons.mp h
    rw [put]
    split
    · next he => exact List.nodup_cons.mpr ⟨he ▸ hnot, hrest⟩
    · next he =>
      refine List.nodup_cons.mpr ⟨?_, ih hrest⟩
      rw [mem_keys_put, not_or]
      exact ⟨he, hnot⟩

theorem nodup_keys_insert {t : Table κ α} (h : t.keys.Nodup) (k : κ) (a : α) :
    (t.insert k a).keys.Nodup := nodup_keys_put h k a

end Table

/-! ## The order of texts -/

namespace Text

/-- A text comes before another if it has the smaller code where they first differ, or is the
other's beginning. -/
def Before (s t : String) : Prop := List.Lex (· < ·) (codes s) (codes t)

theorem isAtMost_iff {s t : String} : isAtMost s t = true ↔ ¬Before t s := by
  rw [isAtMost, isAtMostCodes, Bool.not_eq_true', List.lex_eq_false_iff_ge]
  exact Iff.rfl

theorem isAtMost_trans (s t u : String) (hst : isAtMost s t = true) (htu : isAtMost t u = true) :
    isAtMost s u = true := by
  rw [isAtMost_iff] at hst htu ⊢
  exact @List.le_trans Nat _ _ _ _ (codes s) (codes t) (codes u) hst htu

theorem isAtMost_total (s t : String) : (isAtMost s t || isAtMost t s) = true := by
  rw [Bool.or_eq_true, isAtMost_iff, isAtMost_iff]
  exact List.le_total (codes s) (codes t)

/-- Of two different texts, the one that is not after the other is before it. -/
theorem before_of_isAtMost {s t : String} (h : isAtMost s t = true) (hne : s ≠ t) : Before s t := by
  have hcases := @List.le_iff_lt_or_eq Nat _ _ _ _ (codes s) (codes t)
  rcases hcases.mp (isAtMost_iff.mp h) with hlt | heq
  · exact hlt
  · exact absurd (String.toList_inj.mp (codesOf_injective heq)) hne

end Text

/-! ## The names -/

namespace Registry

variable {r : Registry}

theorem mem_names {s : String} : s ∈ r.names ↔ r.contains (.text s) = .ok true := by
  rw [names, List.mem_mergeSort, Table.mem_keys]
  simp [contains, get?]

theorem length_names : r.names.length = r.size := by
  rw [names, List.length_mergeSort, Table.keys, List.length_map, size, Table.size]

/-- Every name comes before all that are listed after it. -/
theorem pairwise_names (h : r.entries.keys.Nodup) :
    r.names.Pairwise Text.Before := by
  have hsorted : r.names.Pairwise fun s t => Text.isAtMost s t = true :=
    List.pairwise_mergeSort Text.isAtMost_trans Text.isAtMost_total _
  have hdistinct : r.names.Nodup := (List.mergeSort_perm _ _).nodup_iff.mpr h
  exact hsorted.imp₂ (fun s t hle hne => Text.before_of_isAtMost hle hne) hdistinct

end Registry

end MetesBounds
