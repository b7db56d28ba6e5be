import MetesBounds.Point.Checked
import MetesBounds.Proofs.Calculation
import MetesBounds.Proofs.Calculation.Exact
import MetesBounds.Proofs.Decimal.Characters
import MetesBounds.Proofs.Text.Joined
import MetesBounds.Wkt

/-!
# `Wkt/Reading` — the text of a geometry holds its points

What stands between the parentheses of a geometry is cut at the commas, and each part at its space.
This gives back the coordinates as they were written, as long as none of them has one of these
characters in it. The ring of a polygon is closed where it does not end where it began: positions
are the same if their coordinates are worth the same, whatever they are written as.

Main statement: `Wkt.geometry_read_back`.
-/

set_option autoImplicit false

namespace MetesBounds

/-! ## Positions -/

namespace Point

/-- A point that there can be. -/
def IsMade (p : Point) : Prop := ∃ latitude longitude, ofValues latitude longitude = .ok p

/-- Where a point is, exactly. -/
def position (p : Point) : ℚ × ℚ := (p.longitude.worth, p.latitude.worth)

/-- The coordinates of a point as they are exported. -/
def printed (p : Point) : List String := [p.longitudeText, p.latitude.text]

theorem finite_of_checked {y x : Number} {p : Point} (h : checked y x = .ok p) :
    p.latitude.isFinite = true ∧ p.longitude.isFinite = true := by
  rw [checked] at h
  split at h
  · cases h
  split at h
  · cases h
  next hy =>
  split at h
  · cases h
  split at h
  · cases h
  next hx =>
  split at h
  · cases h
    exact ⟨by simpa using hy, by simpa using hx⟩
  · cases h

theorem IsMade.finite {p : Point} (h : p.IsMade) :
    p.latitude.isFinite = true ∧ p.longitude.isFinite = true := by
  obtain ⟨latitude, longitude, h⟩ := h
  rw [ofValues, bind_eq_ok] at h
  obtain ⟨y, -, h⟩ := h
  dsimp only at h
  split at h
  · cases h
  rw [bind_eq_ok] at h
  obtain ⟨x, -, h⟩ := h
  split at h
  · cases h
  split at h
  · cases h
  obtain ⟨p', hp', h⟩ := bind_eq_ok.mp h
  have hfinite := finite_of_checked hp'
  cases h
  exact hfinite

theorem same_iff {p q : Point} (hp : p.IsMade) (hq : q.IsMade) (hrows : p.rows = q.rows) :
    p.same q = true ↔ p.position = q.position := by
  rw [same, Bool.and_eq_true, Bool.and_eq_true, beq_iff_eq, Number.same_iff hp.finite.1 hq.finite.1,
    Number.same_iff hp.finite.2 hq.finite.2, position, position, Prod.mk.injEq]
  constructor
  · rintro ⟨⟨hlatitude, -⟩, hlongitude⟩
    exact ⟨hlongitude, hlatitude⟩
  · rintro ⟨hlongitude, hlatitude⟩
    exact ⟨⟨hlatitude, hrows⟩, hlongitude⟩

end Point

namespace Wkt

/-! ## Reading -/

/-- The text between the parentheses of a geometry: behind those that it opens with, as far as the
first that closes. -/
def between (geometry : String) : String :=
  String.ofList (((geometry.toList.dropWhile (· != '(')).dropWhile (· == '(')).takeWhile (· != ')'))

/-- The coordinates in the text of a geometry: cut at the commas, and each part at its space. -/
def read (geometry : String) : List (List String) :=
  (Text.pieces "," (between geometry)).map (Text.pieces " ")

/-- The text of a coordinate that cannot be taken for more or less than it is. -/
structure IsBare (s : String) : Prop where
  some : s ≠ ""
  chars : ∀ c ∈ s.toList, c ≠ ' ' ∧ c ≠ ',' ∧ c ≠ '(' ∧ c ≠ ')'

end Wkt

/-- A point whose coordinates are exported as bare texts. -/
structure Point.IsBare (p : Point) : Prop where
  longitude : Wkt.IsBare p.longitudeText
  latitude : Wkt.IsBare p.latitude.text

namespace Wkt

variable {points : List Point} {p : Point}

theorem isBare_of_isWritten {s : String} (h : IsWritten s.toList) : IsBare s where
  some hs := h.some (String.toList_eq_nil_iff.mpr hs)
  chars c hc := by
    have hnumeral := h.chars c hc
    refine ⟨?_, ?_, ?_, ?_⟩ <;> rintro rfl <;> exact absurd hnumeral (by decide)

/-- Numbers are written as bare texts. So it is only a longitude in a row that is not. -/
theorem isBare_iff : p.IsBare ↔ p.rows = 0 := by
  constructor
  · intro h
    cases hrows : p.rows with
    | zero => rfl
    | succ n =>
      have hopen : '(' ∈ p.longitudeText.toList := by
        rw [Point.longitudeText, hrows, Point.inRows]
        simp
      exact absurd rfl (h.longitude.chars _ hopen).2.2.1
  · intro h
    have hlongitude : p.longitudeText = p.longitude.text := by
      rw [Point.longitudeText, h, Point.inRows]
    constructor
    · rw [hlongitude]
      exact isBare_of_isWritten p.longitude.isWritten_text
    · exact isBare_of_isWritten p.latitude.isWritten_text

theorem mem_pair {c : Char} (h : c ∈ p.pair.toList) :
    c ∈ p.longitudeText.toList ∨ c = ' ' ∨ c ∈ p.latitude.text.toList := by
  have hspace : " ".toList = [' '] := rfl
  rw [Point.pair, String.toList_append, String.toList_append, hspace, List.mem_append,
    List.mem_append, List.mem_singleton, or_assoc] at h
  exact h

theorem pair_eq : p.pair = " ".intercalate p.printed := by
  rw [← String.toList_inj, String.toList_intercalate, Point.printed]
  simp [Point.pair, List.intercalate]

/-- A pair of bare coordinates is cut at its space. -/
theorem pieces_pair (h : p.IsBare) : Text.pieces " " p.pair = p.printed := by
  have hone : Text.IsOne " " := ⟨32, by decide, rfl⟩
  rw [pair_eq]
  refine Text.pieces_intercalate hone (List.cons_ne_nil _ _) ?_
  intro cell hcell hinfix
  have hspace : ' ' ∈ cell.toList := hinfix.subset (List.mem_singleton_self ' ')
  rcases List.mem_cons.mp hcell with rfl | hcell
  · exact (h.longitude.chars _ hspace).1 rfl
  · rw [List.mem_singleton.mp hcell] at hspace
    exact (h.latitude.chars _ hspace).1 rfl

/-- Coordinates that are bare are found again in the list of them. -/
theorem pieces_coordinates (hne : points ≠ []) (h : ∀ p ∈ points, p.IsBare) :
    (Text.pieces "," (coordinates points)).map (Text.pieces " ") = points.map Point.printed := by
  have hone : Text.IsOne "," := ⟨44, by decide, rfl⟩
  have hpairs : Text.pieces "," (coordinates points) = points.map Point.pair := by
    refine Text.pieces_intercalate hone (mt List.map_eq_nil_iff.mp hne) ?_
    intro cell hcell hinfix
    obtain ⟨p, hp, rfl⟩ := List.mem_map.mp hcell
    have hcomma : ',' ∈ p.pair.toList := hinfix.subset (List.mem_singleton_self ',')
    rcases mem_pair hcomma with hc | hc | hc
    · exact ((h p hp).longitude.chars _ hc).2.1 rfl
    · cases hc
    · exact ((h p hp).latitude.chars _ hc).2.1 rfl
  rw [hpairs, List.map_map]
  exact List.map_congr_left fun p hp => pieces_pair (h p hp)

/-- The characters of a list of coordinates. -/
theorem mem_coordinates {c : Char} (h : c ∈ (coordinates points).toList) :
    c = ',' ∨ ∃ p ∈ points, c ∈ p.longitudeText.toList ∨ c = ' ' ∨ c ∈ p.latitude.text.toList := by
  have hcomma : ",".toList = [','] := rfl
  rw [coordinates, String.toList_intercalate, hcomma] at h
  rcases Text.mem_intercalate h with hc | ⟨cell, hcell, hc⟩
  · exact .inl (List.mem_singleton.mp hc)
  · obtain ⟨s, hs, rfl⟩ := List.mem_map.mp hcell
    obtain ⟨p, hp, rfl⟩ := List.mem_map.mp hs
    exact .inr ⟨p, hp, mem_pair hc⟩

theorem coordinates_ne_nil (hne : points ≠ []) : (coordinates points).toList ≠ [] := by
  obtain ⟨p, rest, rfl⟩ := List.exists_cons_of_ne_nil hne
  intro hnil
  rw [coordinates, String.toList_intercalate] at hnil
  cases rest with
  | nil => simp [Point.pair] at hnil
  | cons q rest => simp [List.intercalate_cons_cons] at hnil

/-- No parenthesis stands among bare coordinates. -/
theorem coordinates_chars (h : ∀ p ∈ points, p.IsBare) :
    ∀ c ∈ (coordinates points).toList, c ≠ '(' ∧ c ≠ ')' := by
  intro c hc
  rcases mem_coordinates hc with rfl | ⟨p, hp, hc | rfl | hc⟩
  · decide
  · exact ((h p hp).longitude.chars c hc).2.2
  · decide
  · exact ((h p hp).latitude.chars c hc).2.2

/-- What stands between parentheses is found, whatever stands in front of them and behind. -/
theorem between_eq {geometry : String} {front opening inner back : List Char}
    (hgeometry : geometry.toList = front ++ '(' :: (opening ++ (inner ++ ')' :: back)))
    (hfront : ∀ c ∈ front, c ≠ '(') (hopening : ∀ c ∈ opening, c = '(') (hne : inner ≠ [])
    (hinner : ∀ c ∈ inner, c ≠ '(' ∧ c ≠ ')') : between geometry = String.ofList inner := by
  have hbegin : ((inner ++ ')' :: back).dropWhile (· == '(')) = inner ++ ')' :: back := by
    obtain ⟨c, rest, rfl⟩ := List.exists_cons_of_ne_nil hne
    have hc : ¬(c == '(') = true := by simpa using (hinner c List.mem_cons_self).1
    exact List.dropWhile_cons_of_neg hc
  rw [between, hgeometry, List.dropWhile_append_of_pos fun c hc => bne_iff_ne.mpr (hfront c hc),
    List.dropWhile_cons_of_neg (by decide), List.dropWhile_cons_of_pos (by decide),
    List.dropWhile_append_of_pos fun c hc => beq_iff_eq.mpr (hopening c hc), hbegin,
    List.takeWhile_append_of_pos fun c hc => bne_iff_ne.mpr (hinner c hc).2,
    List.takeWhile_cons_of_neg (by decide), List.append_nil]

theorem read_lineString (hne : points ≠ []) (h : ∀ p ∈ points, p.IsBare) :
    read (lineString points) = points.map Point.printed := by
  have htext : (lineString points).toList =
      "LINESTRING ".toList ++ '(' :: ([] ++ ((coordinates points).toList ++ ')' :: [])) := by
    rw [lineString, if_neg (by simpa using hne)]
    simp
  rw [read, between_eq htext (by simp) (by simp) (coordinates_ne_nil hne) (coordinates_chars h),
    String.ofList_toList, pieces_coordinates hne h]

/-! ## The ring -/

/-- Points that end where they begin, with the first of them again where they do not. -/
def closed : List Point → List Point
  | [] => []
  | first :: rest =>
    if ((first :: rest).getLast (List.cons_ne_nil first rest)).position = first.position then
      first :: rest
    else first :: rest ++ [first]

theorem closed_ne_nil (hne : points ≠ []) : closed points ≠ [] := by
  obtain ⟨first, rest, rfl⟩ := List.exists_cons_of_ne_nil hne
  rw [closed]
  split
  · exact List.cons_ne_nil _ _
  · exact List.cons_ne_nil _ _

theorem mem_of_mem_closed (h : p ∈ closed points) : p ∈ points := by
  cases points with
  | nil => exact h
  | cons first rest =>
    rw [closed] at h
    split at h
    · exact h
    · rcases List.mem_append.mp h with h | h
      · exact h
      · rw [List.mem_singleton.mp h]
        exact List.mem_cons_self

/-- Closed points begin and end in the same position. -/
theorem ends_of_closed (hne : points ≠ []) :
    ∃ first last, (closed points).head? = some first ∧ (closed points).getLast? = some last ∧
      first.position = last.position := by
  obtain ⟨first, rest, rfl⟩ := List.exists_cons_of_ne_nil hne
  rw [closed]
  split
  · next h => exact ⟨first, _, rfl, List.getLast?_eq_some_getLast (List.cons_ne_nil _ _), h.symm⟩
  · exact ⟨first, first, rfl, List.getLast?_concat, rfl⟩

theorem closed_closed : closed (closed points) = closed points := by
  cases points with
  | nil => rfl
  | cons first rest =>
    by_cases h : ((first :: rest).getLast (List.cons_ne_nil first rest)).position = first.position
    · have hclosed : closed (first :: rest) = first :: rest := by rw [closed, if_pos h]
      rw [hclosed, hclosed]
    · have hclosed : closed (first :: rest) = first :: (rest ++ [first]) := by
        rw [closed, if_neg h]
        rfl
      rw [hclosed, closed, if_pos (by simp)]

/-- A ring is closed by position. -/
theorem ring_eq_closed (hmade : ∀ p ∈ points, p.IsMade) (hrows : ∀ p ∈ points, p.rows = 0) :
    ring points = closed points := by
  cases points with
  | nil => rfl
  | cons first rest =>
    have hlast := List.getLast_mem (List.cons_ne_nil first rest)
    have hfirst : first ∈ first :: rest := List.mem_cons_self
    have hlastD : (first :: rest).getLastD first =
        (first :: rest).getLast (List.cons_ne_nil first rest) := by
      rw [List.getLastD_cons, List.getLast_eq_getLastD]
    have hsame := Point.same_iff (hmade _ hlast) (hmade _ hfirst)
      ((hrows _ hlast).trans (hrows _ hfirst).symm)
    rw [ring, closed, hlastD]
    simp only [hsame]

theorem read_polygon {text : String} (hne : points ≠ []) (hbare : ∀ p ∈ points, p.IsBare)
    (h : text = "POLYGON ((" ++ coordinates points ++ "))") :
    read text = points.map Point.printed := by
  have htext : text.toList =
      "POLYGON ".toList ++ '(' :: (['('] ++ ((coordinates points).toList ++ ')' :: [')'])) := by
    rw [h]
    simp
  rw [read, between_eq htext (by simp) (by simp) (coordinates_ne_nil hne) (coordinates_chars hbare),
    String.ofList_toList, pieces_coordinates hne hbare]

/-- What a polygon is written as depends on its closed ring alone. -/
theorem polygon_eq (hne : points ≠ []) (hmade : ∀ p ∈ points, p.IsMade)
    (hbare : ∀ p ∈ points, p.IsBare) :
    polygon points =
      if (closed points).length < 4 then .error (.openRing points.length)
      else .ok ("POLYGON ((" ++ coordinates (closed points) ++ "))") := by
  rw [polygon, if_neg (by simpa using hne),
    ring_eq_closed hmade fun p hp => isBare_iff.mp (hbare p hp)]

/-- **The text of a geometry holds its points in order, and a polygon is closed**, for points whose
coordinates are exported as bare texts. -/
theorem geometry_read_back (hne : points ≠ []) (hmade : ∀ p ∈ points, p.IsMade)
    (hbare : ∀ p ∈ points, p.IsBare) :
    read (lineString points) = points.map Point.printed ∧
    ((closed points).length < 4 →
      ∃ err, err.family = .value ∧ polygon points = .error err) ∧
    (4 ≤ (closed points).length →
      ∃ text, polygon points = .ok text ∧ read text = (closed points).map Point.printed ∧
        (∃ first last, (closed points).head? = some first ∧ (closed points).getLast? = some last ∧
          first.position = last.position) ∧
        polygon (closed points) = .ok text) := by
  refine ⟨read_lineString hne hbare, ?_, ?_⟩
  · intro hfew
    exact ⟨.openRing points.length, rfl, by rw [polygon_eq hne hmade hbare, if_pos hfew]⟩
  · intro henough
    have hclosed : closed points ≠ [] := closed_ne_nil hne
    have hmade' : ∀ p ∈ closed points, p.IsMade := fun p hp => hmade p (mem_of_mem_closed hp)
    have hbare' : ∀ p ∈ closed points, p.IsBare := fun p hp => hbare p (mem_of_mem_closed hp)
    refine ⟨"POLYGON ((" ++ coordinates (closed points) ++ "))", ?_, ?_, ends_of_closed hne, ?_⟩
    · rw [polygon_eq hne hmade hbare, if_neg (Nat.not_lt.mpr henough)]
    · exact read_polygon hclosed hbare' rfl
    · rw [polygon_eq hclosed hmade' hbare', closed_closed, if_neg (Nat.not_lt.mpr henough)]

/-- Three corners and the first of them again, given as truth values: the ring is closed. Two of the
corners do not make a ring. -/
theorem geometry_read_back_triangle :
    let corners : List Point := [⟨.whole 1, .whole 0, 0⟩, ⟨.whole 0, .whole 0, 0⟩,
      ⟨.whole 0, .whole 2, 0⟩, ⟨.truth true, .truth false, 0⟩]
    read (lineString corners) = [["0", "1"], ["0", "0"], ["2", "0"], ["False", "True"]] ∧
      (∃ text, polygon corners = .ok text ∧
        read text = [["0", "1"], ["0", "0"], ["2", "0"], ["False", "True"]]) ∧
      ∃ err, err.family = .value ∧ polygon (corners.take 2) = .error err := by
  intro corners
  have hmade : ∀ p ∈ corners, p.IsMade := by
    intro p hp
    refine ⟨.number p.latitude, .number p.longitude, ?_⟩
    simp only [corners, List.mem_cons, List.not_mem_nil, or_false] at hp
    rcases hp with rfl | rfl | rfl | rfl <;> rfl
  have hrows : ∀ p ∈ corners, p.rows = 0 := by decide
  have hbare : ∀ p ∈ corners, p.IsBare := fun p hp => isBare_iff.mpr (hrows p hp)
  have hclosed : closed corners = corners := (ring_eq_closed hmade hrows).symm.trans rfl
  have hbegun : ∀ p ∈ corners.take 2, p ∈ corners := fun p hp => List.mem_of_mem_take hp
  have hfew : (closed (corners.take 2)).length < 4 := by
    rw [← ring_eq_closed (fun p hp => hmade p (hbegun p hp)) fun p hp => hrows p (hbegun p hp)]
    decide
  obtain ⟨hline, -, hpolygon⟩ := geometry_read_back (List.cons_ne_nil _ _) hmade hbare
  obtain ⟨text, htext, hread, -⟩ := hpolygon (by rw [hclosed]; decide)
  rw [hclosed] at hread
  obtain ⟨-, herror, -⟩ := geometry_read_back (List.cons_ne_nil _ _)
    (fun p hp => hmade p (hbegun p hp)) (fun p hp => hbare p (hbegun p hp))
  exact ⟨hline, ⟨text, htext, hread⟩, herror hfew⟩

end Wkt

end MetesBounds
