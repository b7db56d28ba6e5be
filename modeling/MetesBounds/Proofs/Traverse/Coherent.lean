import MetesBounds.Proofs.Traverse.Update

/-!
# `Traverse/Coherent` — the two points a traverse remembers, and the points it has found

A traverse keeps its last two positions beside the list of points found, and a clearing empties the
list without forgetting the positions. So the positions cannot simply be the tail of the list:
right after a clearing there is no tail, and one point later the tail is shorter than the memory.
`Traverse.Coherent` says what does hold at all times. It speaks of the tail only as far as the list
goes, and that is just enough to come through a clearing and the first two points after it.

Main definitions: `Traverse.Coherent`. Every operation on a traverse has its lemma here.
-/

set_option autoImplicit false

namespace MetesBounds.Traverse

/-- The stations, the points and the two positions of a traverse agree. -/
structure Coherent (t : Traverse) : Prop where
  /-- There is one station to each point, in the same order. -/
  stations : t.stations.map Station.point = t.points
  /-- The last point found is where the traverse stands. -/
  last : t.points ≠ [] → t.points.getLast? = t.current
  /-- The last point but one is where it stood before. -/
  lastButOne : 2 ≤ t.points.length → t.points.dropLast.getLast? = t.previous
  /-- What stood somewhere before stands somewhere now. -/
  placed : t.previous.isSome → t.current.isSome
  /-- What stands nowhere has found nothing. -/
  unplaced : t.current = none → t.points = []

namespace Coherent

variable {t : Traverse}

theorem start (marker : Value) : (Traverse.start marker).Coherent where
  stations := rfl
  last := fun hn => absurd rfl hn
  lastButOne := fun hl => absurd hl (Nat.not_succ_le_zero 1)
  placed := nofun
  unplaced := fun _ => rfl

theorem bind (h : t.Coherent) (s : Symbol) (v : Value) : (t.bind s v).Coherent :=
  ⟨h.stations, h.last, h.lastButOne, h.placed, h.unplaced⟩

theorem lastResult (h : t.Coherent) (v : Value) :
    ({ t with lastResult := v } : Traverse).Coherent :=
  ⟨h.stations, h.last, h.lastButOne, h.placed, h.unplaced⟩

/-- The new last point but one is the old last point, which is where the traverse stood. -/
theorem advance (h : t.Coherent) (p : Point) (label : String) (index : Int) :
    (t.advance p label index).Coherent where
  stations := by simp [h.stations]
  last := fun _ => by simp
  lastButOne := by
    intro hl
    rw [points_advance, List.length_append, List.length_singleton] at hl
    -- what was the tail is now the tail but one
    rw [points_advance, List.dropLast_concat, previous_advance]
    exact h.last (List.ne_nil_of_length_pos (by omega))
  placed := fun _ => rfl
  unplaced := nofun

theorem clearPoints (h : t.Coherent) : t.clearPoints.Coherent where
  stations := rfl
  last := fun hn => absurd rfl hn
  lastButOne := fun hl => absurd hl (Nat.not_succ_le_zero 1)
  placed := h.placed
  unplaced := fun _ => rfl

theorem reset : t.reset.Coherent := start t.marker

/-- The stations number the points. -/
theorem length_stations (h : t.Coherent) : t.stations.length = t.points.length := by
  rw [← h.stations, List.length_map]

end Coherent

end MetesBounds.Traverse
