import MetesBounds.Traverse

/-!
# `Traverse/Update` — what each operation on a traverse changes, field by field

An operation touches some fields and leaves the others. Both are said once here, for `simp`, so
that no proof about a run has to open an operation. The table of symbols is described through what
is found under a name (`Traverse.symbols_bind`).
-/

set_option autoImplicit false

namespace MetesBounds.Traverse

variable (t : Traverse) (s : Symbol) (v : Value) (p : Point) (label : String) (index : Int)

/-! ## Binding -/

@[simp] theorem marker_bind : (t.bind s v).marker = t.marker := rfl
@[simp] theorem points_bind : (t.bind s v).points = t.points := rfl
@[simp] theorem stations_bind : (t.bind s v).stations = t.stations := rfl
@[simp] theorem previous_bind : (t.bind s v).previous = t.previous := rfl
@[simp] theorem current_bind : (t.bind s v).current = t.current := rfl
@[simp] theorem lastResult_bind : (t.bind s v).lastResult = t.lastResult := rfl

/-- A name is the same symbol as itself alone. -/
theorem same_named {s : Symbol} {n : String} (h : s.same (.named n) = true) : s = .named n := by
  cases s with
  | named m => rw [eq_of_beq (show (m == n) = true from h)]
  | other => cases h

/-- The spelling that a binding keeps is a name just where the symbol bound is that name. -/
theorem spelling_named {keys : List Symbol} {n : String} :
    (keys.find? s.same).getD s = .named n ↔ s = .named n := by
  cases hf : keys.find? s.same with
  | none => rfl
  | some k =>
    have hk : s.same k = true := List.find?_some hf
    constructor
    · rintro rfl
      exact same_named hk
    · rintro rfl
      cases k with
      | named m => rw [eq_of_beq (show (n == m) = true from hk)]; rfl
      | other => cases hk

/-- **What a binding changes in the table**: what is found under the name bound, if it is a name,
and nothing else. -/
theorem symbols_bind (n : String) : (t.bind s v).symbols.get? (.named n) =
    if s = .named n then some v else t.symbols.get? (.named n) := by
  rw [bind, Table.get?_insert]
  simp only [eq_comm (a := Symbol.named n), spelling_named]

/-! ## Advancing -/

@[simp] theorem marker_advance : (t.advance p label index).marker = t.marker := rfl
@[simp] theorem symbols_advance : (t.advance p label index).symbols = t.symbols := rfl
@[simp] theorem points_advance : (t.advance p label index).points = t.points ++ [p] := rfl
@[simp] theorem stations_advance :
    (t.advance p label index).stations = t.stations ++ [⟨label, p, index⟩] := rfl
@[simp] theorem previous_advance : (t.advance p label index).previous = t.current := rfl
@[simp] theorem current_advance : (t.advance p label index).current = some p := rfl
@[simp] theorem lastResult_advance : (t.advance p label index).lastResult = t.lastResult := rfl

/-! ## Clearing and resetting -/

@[simp] theorem marker_clearPoints : t.clearPoints.marker = t.marker := rfl
@[simp] theorem symbols_clearPoints : t.clearPoints.symbols = t.symbols := rfl
@[simp] theorem points_clearPoints : t.clearPoints.points = [] := rfl
@[simp] theorem stations_clearPoints : t.clearPoints.stations = [] := rfl
@[simp] theorem previous_clearPoints : t.clearPoints.previous = t.previous := rfl
@[simp] theorem current_clearPoints : t.clearPoints.current = t.current := rfl
@[simp] theorem lastResult_clearPoints : t.clearPoints.lastResult = t.lastResult := rfl

@[simp] theorem marker_reset : t.reset.marker = t.marker := rfl
@[simp] theorem symbols_reset : t.reset.symbols = .empty := rfl
@[simp] theorem points_reset : t.reset.points = [] := rfl
@[simp] theorem stations_reset : t.reset.stations = [] := rfl
@[simp] theorem previous_reset : t.reset.previous = none := rfl
@[simp] theorem current_reset : t.reset.current = none := rfl
@[simp] theorem lastResult_reset : t.reset.lastResult = .nothing := rfl

end MetesBounds.Traverse
