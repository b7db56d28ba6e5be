import MetesBounds.Proofs.Wkt.Reading

/-!
# `Wkt/Corners` — how many places a polygon needs

A ring comes back to the place where it began. What it visits before that are its corners, and a
polygon is refused where it has fewer than three of them. Corners are counted as often as they are
visited. So three different places are always enough; but a line that goes there and back again has
as many corners as one likes, and no more than two places. Only of a ring that comes to no place
twice can it be said that it has three different places.

Main statement: `Wkt.polygon_by_corners`.
-/

set_option autoImplicit false

namespace MetesBounds

/-- Where a point is, together with the rows that its longitude stands in. -/
def Point.place (p : Point) : ℕ × ℚ × ℚ := (p.rows, p.position)

/-- Points are the same just where they are in the same place. -/
theorem Point.same_iff_place {p q : Point} (hp : p.IsMade) (hq : q.IsMade) :
    p.same q = true ↔ p.place = q.place := by
  rw [place, place, Prod.mk.injEq]
  by_cases hrows : p.rows = q.rows
  · rw [same_iff hp hq hrows, and_iff_right hrows]
  · simp [same, hrows]

namespace Wkt

variable {points : List Point}

/-- The different places of points. -/
def places (points : List Point) : Finset (ℕ × ℚ × ℚ) := (points.map Point.place).toFinset

/-- The places that points visit before they come back to the first, each as often as it is
visited. -/
def corners : List Point → List (ℕ × ℚ × ℚ)
  | [] => []
  | first :: rest =>
    if ((first :: rest).getLast (List.cons_ne_nil first rest)).place = first.place then
      (first :: rest).dropLast.map Point.place
    else (first :: rest).map Point.place

/-- A ring has one position more than it has corners. -/
theorem length_ring (hne : points ≠ []) (hmade : ∀ p ∈ points, p.IsMade) :
    (ring points).length = (corners points).length + 1 := by
  obtain ⟨first, rest, rfl⟩ := List.exists_cons_of_ne_nil hne
  have hsame := Point.same_iff_place (hmade _ (List.getLast_mem hne))
    (hmade first List.mem_cons_self)
  rw [ring, corners, List.getLastD_cons, ← List.getLast_eq_getLastD (List.cons_ne_nil first rest),
    if_congr hsame rfl rfl]
  split
  · simp
  · simp

/-- Where there are corners, they are all the places. -/
theorem toFinset_corners (h : corners points ≠ []) : (corners points).toFinset = places points := by
  cases points with
  | nil => rfl
  | cons first rest =>
    rw [corners] at h ⊢
    split at h
    · next hlast =>
      rw [if_pos hlast]
      -- the place that is left out at the end is the first one
      have hfirst : first.place ∈ (first :: rest).dropLast.map Point.place := by
        cases rest with
        | nil => exact absurd rfl h
        | cons second rest => exact List.mem_cons_self
      have hsplit := List.dropLast_append_getLast (List.cons_ne_nil first rest)
      rw [places]
      nth_rewrite 2 [← hsplit]
      rw [List.map_append, List.toFinset_append, List.map_singleton, hlast, List.toFinset_cons,
        List.toFinset_nil, insert_empty_eq, Finset.union_singleton,
        Finset.insert_eq_of_mem (List.mem_toFinset.mpr hfirst)]
    · next hlast => rw [if_neg hlast, places]

/-- A single point has no corners. -/
theorem length_le_of_corners_eq_nil (h : corners points = []) : points.length ≤ 1 := by
  cases points with
  | nil => exact Nat.zero_le 1
  | cons first rest =>
    rw [corners] at h
    split at h
    · simpa [← List.length_eq_zero_iff] using h
    · cases h

theorem card_places_le (points : List Point) : (places points).card ≤ points.length :=
  (List.toFinset_card_le _).trans_eq (List.length_map _)

/-- There are no more places than corners, unless there is only one point. -/
theorem card_places_le_corners (h : 1 < (places points).card) :
    (places points).card ≤ (corners points).length := by
  have hcorners : corners points ≠ [] := fun hnil =>
    absurd (length_le_of_corners_eq_nil hnil) (not_le.mpr (h.trans_le (card_places_le points)))
  rw [← toFinset_corners hcorners]
  exact List.toFinset_card_le _

/-- A polygon is accepted just where its ring has three corners. -/
theorem polygon_eq_by_corners (hne : points ≠ []) (hmade : ∀ p ∈ points, p.IsMade) :
    polygon points =
      if (corners points).length < 3 then .error (.openRing points.length)
      else .ok ("POLYGON ((" ++ coordinates (ring points) ++ "))") := by
  rw [polygon, if_neg (by simpa using hne), length_ring hne hmade]
  simp only [Nat.add_lt_iff_lt_sub_right]

/-- **A polygon needs three corners.** With three different places there are three; and a ring that
comes to no place twice has no others. -/
theorem polygon_by_corners (hne : points ≠ []) (hmade : ∀ p ∈ points, p.IsMade) :
    ((∃ text, polygon points = .ok text) ↔ 3 ≤ (corners points).length) ∧
    ((corners points).length < 3 → polygon points = .error (.openRing points.length)) ∧
    (3 ≤ (places points).card → ∃ text, polygon points = .ok text) ∧
    ((corners points).Nodup →
      ((∃ text, polygon points = .ok text) ↔ 3 ≤ (places points).card)) := by
  have haccepted : (∃ text, polygon points = .ok text) ↔ 3 ≤ (corners points).length := by
    rw [polygon_eq_by_corners hne hmade]
    split
    · next hfew => exact iff_of_false (fun ⟨_, h⟩ => nomatch h) (not_le.mpr hfew)
    · next henough => exact iff_of_true ⟨_, rfl⟩ (not_lt.mp henough)
  have hplaces (h : 3 ≤ (places points).card) : 3 ≤ (corners points).length :=
    h.trans (card_places_le_corners (lt_of_lt_of_le (by decide) h))
  refine ⟨haccepted, fun hfew => ?_, fun h => haccepted.mpr (hplaces h), fun hnodup => ?_⟩
  · rw [polygon_eq_by_corners hne hmade, if_pos hfew]
  · rw [haccepted]
    refine ⟨fun h => ?_, hplaces⟩
    have hcorners : corners points ≠ [] := by
      intro hnil
      rw [hnil] at h
      exact absurd h (by decide)
    rwa [← toFinset_corners hcorners, List.toFinset_card_of_nodup hnodup]

/-- Three points on whole degrees, not in a line. -/
def triangle : List Point :=
  [⟨.whole 0, .whole 0, 0⟩, ⟨.whole 1, .whole 0, 0⟩, ⟨.whole 1, .whole 1, 0⟩]

theorem isMade_triangle {p : Point} (h : p ∈ triangle) : p.IsMade := by
  refine ⟨.number p.latitude, .number p.longitude, ?_⟩
  simp only [triangle, List.mem_cons, List.not_mem_nil, or_false] at h
  rcases h with rfl | rfl | rfl <;> rfl

/-- Three corners make a polygon. Two of them do not, and with the first of them again they are
still two. -/
theorem polygon_by_corners_triangle :
    (∃ text, polygon triangle = .ok text) ∧ (corners triangle).Nodup ∧ 3 ≤ (places triangle).card ∧
      polygon (triangle.take 2 ++ triangle.take 1) = .error (.openRing 3) := by
  have hmade : ∀ p ∈ triangle, p.IsMade := fun p hp => isMade_triangle hp
  obtain ⟨-, -, henough, hdistinct⟩ := polygon_by_corners (List.cons_ne_nil _ _) hmade
  have hthree : 3 ≤ (places triangle).card := by decide +kernel
  have hnodup : (corners triangle).Nodup := by decide +kernel
  have hagain : ∀ p ∈ triangle.take 2 ++ triangle.take 1, p.IsMade := by
    intro p hp
    rcases List.mem_append.mp hp with hp | hp
    · exact isMade_triangle (List.mem_of_mem_take hp)
    · exact isMade_triangle (List.mem_of_mem_take hp)
  obtain ⟨-, hfew, -⟩ := polygon_by_corners (List.cons_ne_nil _ _) hagain
  exact ⟨(hdistinct hnodup).mpr hthree, hnodup, hthree, hfew (by decide +kernel)⟩

/-- There and back again and there once more: a polygon with two places. -/
theorem not_polygon_needs_places : ¬∀ points : List Point, points ≠ [] →
    (∀ p ∈ points, p.IsMade) → (∃ text, polygon points = .ok text) → 3 ≤ (places points).card := by
  intro h
  have hmade : ∀ p ∈ triangle.take 2 ++ triangle.take 2, p.IsMade := by
    intro p hp
    exact isMade_triangle (List.mem_of_mem_take ((List.mem_append.mp hp).elim id id))
  have hthree := h (triangle.take 2 ++ triangle.take 2) (List.cons_ne_nil _ _) hmade ⟨_, rfl⟩
  exact absurd hthree (by decide +kernel)

end Wkt

end MetesBounds
