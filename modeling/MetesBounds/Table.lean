/-!
# `Table` — a finite map that remembers the order of first insertion

Symbols, procedures, column headers and audited runs are all kept in such tables. A later
insertion under a key replaces the value and keeps the place. The view of a table is `get?`; every
operation is described through it.
-/

set_option autoImplicit false

namespace MetesBounds

universe u v

/-- Entries in order of first insertion. -/
structure Table (κ : Type u) (α : Type v) where
  entries : List (κ × α)

namespace Table

variable {κ : Type u} {α : Type v} [DecidableEq κ]

/-- The table that holds nothing. -/
def empty : Table κ α := ⟨[]⟩

/-- The value under a key in a list of entries. -/
def find? (k : κ) : List (κ × α) → Option α
  | [] => none
  | e :: rest => if e.1 = k then some e.2 else find? k rest

/-- Entries with a value put under a key: in the key's place, or at the end. -/
def put (k : κ) (a : α) : List (κ × α) → List (κ × α)
  | [] => [(k, a)]
  | e :: rest => if e.1 = k then (k, a) :: rest else e :: put k a rest

/-- The value under a key. -/
def get? (t : Table κ α) (k : κ) : Option α := find? k t.entries

/-- The table with a value put under a key. -/
def insert (t : Table κ α) (k : κ) (a : α) : Table κ α := ⟨put k a t.entries⟩

/-- Whether a key has a value. -/
def contains (t : Table κ α) (k : κ) : Bool := (t.get? k).isSome

/-- The keys in order. -/
def keys (t : Table κ α) : List κ := t.entries.map Prod.fst

/-- The number of keys. -/
def size (t : Table κ α) : Nat := t.entries.length

theorem find?_put (k j : κ) (a : α) (es : List (κ × α)) :
    find? j (put k a es) = if j = k then some a else find? j es := by
  induction es with
  | nil => simp [put, find?, eq_comm]
  | cons e rest ih =>
    by_cases he : e.1 = k
    · by_cases hj : j = k
      · subst hj; simp [put, he, find?]
      · have : ¬ k = j := fun h => hj h.symm
        simp [put, he, find?, hj, this]
    · by_cases hj : e.1 = j
      · have : ¬ j = k := fun h => he (hj.trans h)
        simp [put, find?, hj, this]
      · simp [put, he, find?, hj, ih]

@[simp] theorem get?_empty (k : κ) : (empty : Table κ α).get? k = none := rfl

theorem get?_insert (t : Table κ α) (k j : κ) (a : α) :
    (t.insert k a).get? j = if j = k then some a else t.get? j := find?_put k j a t.entries

end Table

end MetesBounds
