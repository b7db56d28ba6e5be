import MetesBounds.Proofs.Wkt.Reading

/-!
# `Wkt/Row` — what the rows of two lines tell apart

A row puts the text of a geometry, a name and a description in quotation marks. No quotation mark
stands in a geometry, so the geometries of two equal rows are equal; and a line holds its
coordinates in such a way that those of two equal lines are written alike, also where a longitude
stands in a row and is no bare text. A name and a description are another matter. Quotation marks
in them stand as they are, so a name that holds one may take over the beginning of a description.

Main statement: `Wkt.row_eq_row`.
-/

set_option autoImplicit false

namespace MetesBounds.Wkt

variable {p : Point} {points : List Point} {c : Char}

/-- What is in front of the first separator and what is behind it are told apart. -/
theorem append_cons_inj {xs ys zs ws : List Char} (hxs : c ∉ xs) (hys : c ∉ ys) :
    xs ++ c :: zs = ys ++ c :: ws ↔ xs = ys ∧ zs = ws := by
  induction xs generalizing ys with
  | nil =>
    cases ys with
    | nil => simp
    | cons y ys => simp [List.ne_of_not_mem_cons hys]
  | cons x xs ih =>
    cases ys with
    | nil => simp [Ne.symm (List.ne_of_not_mem_cons hxs)]
    | cons y ys =>
      have htails := ih (List.not_mem_of_not_mem_cons hxs) (List.not_mem_of_not_mem_cons hys)
      simp [htails, and_assoc]

/-! ## Lines -/

theorem mem_inRows {s : String} {n : ℕ} (h : c ∈ (Point.inRows s n).toList) :
    c ∈ s.toList ∨ c = '(' ∨ c = ',' ∨ c = ')' := by
  induction n with
  | zero => exact .inl h
  | succ n ih =>
    simp only [Point.inRows, String.toList_append, List.mem_append] at h
    rcases h with (h | h) | h
    · exact .inr (.inl (List.mem_singleton.mp h))
    · exact ih h
    · exact .inr (.inr (by simpa using h))

/-- The characters of a longitude as it is exported. -/
theorem longitude_chars (h : c ∈ p.longitudeText.toList) : c ≠ ' ' ∧ c ≠ '\x22' := by
  rcases mem_inRows h with h | rfl | rfl | rfl
  · have hnumeral := p.longitude.isWritten_text.chars c h
    constructor <;> rintro rfl <;> exact absurd hnumeral (by decide)
  · decide
  · decide
  · decide

/-- The characters of a latitude as it is exported. -/
theorem latitude_chars (h : c ∈ p.latitude.text.toList) : c ≠ ',' ∧ c ≠ '\x22' := by
  have hnumeral := p.latitude.isWritten_text.chars c h
  constructor <;> rintro rfl <;> exact absurd hnumeral (by decide)

/-- Coordinates with a comma behind each pair, the last as well. -/
def ended (points : List Point) : List Char :=
  points.flatMap fun p => p.longitudeText.toList ++ ' ' :: (p.latitude.text.toList ++ [','])

theorem ended_cons (p : Point) (rest : List Point) :
    ended (p :: rest) =
      p.longitudeText.toList ++ ' ' :: (p.latitude.text.toList ++ ',' :: ended rest) := by
  simp [ended]

theorem toList_coordinates (hne : points ≠ []) :
    (coordinates points).toList ++ [','] = ended points := by
  have hcomma : ",".toList = [','] := rfl
  rw [coordinates, String.toList_intercalate, hcomma]
  induction points with
  | nil => exact absurd rfl hne
  | cons p rest ih =>
    cases rest with
    | nil => simp [ended, Point.pair]
    | cons q rest =>
      rw [ended_cons, ← ih (List.cons_ne_nil q rest)]
      simp [List.intercalate_cons_cons, Point.pair]

/-- A longitude goes as far as the first space, and a latitude as far as the comma behind it. -/
theorem printed_of_ended {ps qs : List Point} (h : ended ps = ended qs) :
    ps.map Point.printed = qs.map Point.printed := by
  have hcons : ∀ p rest, ended (p :: rest) ≠ [] := by
    intro p rest hnil
    rw [ended_cons] at hnil
    exact absurd hnil (by simp)
  induction ps generalizing qs with
  | nil =>
    cases qs with
    | nil => rfl
    | cons q qs => exact absurd h.symm (hcons q qs)
  | cons p ps ih =>
    cases qs with
    | nil => exact absurd h (hcons p ps)
    | cons q qs =>
      rw [ended_cons, ended_cons, append_cons_inj (fun hp => (longitude_chars hp).1 rfl)
        (fun hq => (longitude_chars hq).1 rfl), append_cons_inj (fun hp => (latitude_chars hp).1 rfl)
        (fun hq => (latitude_chars hq).1 rfl)] at h
      obtain ⟨hlongitude, hlatitude, hrest⟩ := h
      rw [List.map_cons, List.map_cons, ih hrest, Point.printed, Point.printed,
        String.toList_inj.mp hlongitude, String.toList_inj.mp hlatitude]

/-- What a line is written as depends on how its coordinates are written. -/
theorem lineString_eq_of_printed {ps qs : List Point}
    (h : ps.map Point.printed = qs.map Point.printed) : lineString ps = lineString qs := by
  have hpairs (points : List Point) :
      points.map Point.pair = (points.map Point.printed).map " ".intercalate := by
    rw [List.map_map]
    exact List.map_congr_left fun p _ => pair_eq
  have hempty : ps.isEmpty = qs.isEmpty := by
    rw [← List.isEmpty_map (f := Point.printed), h, List.isEmpty_map]
  rw [lineString, lineString, coordinates, coordinates, hpairs, hpairs, h, hempty]

theorem toList_lineString (hne : points ≠ []) :
    (lineString points).toList =
      "LINESTRING ".toList ++ '(' :: ((coordinates points).toList ++ [')']) := by
  rw [lineString, if_neg (by simpa using hne)]
  simp

/-- Two lines are written alike just where their coordinates are. -/
theorem lineString_eq {ps qs : List Point} :
    lineString ps = lineString qs ↔ ps.map Point.printed = qs.map Point.printed := by
  have hempty : (lineString []).toList = "LINESTRING ".toList ++ 'E' :: "MPTY".toList := rfl
  have hdiffer {points : List Point} (hne : points ≠ []) : lineString [] ≠ lineString points := by
    intro h
    rw [← String.toList_inj, hempty, toList_lineString hne, List.append_cancel_left_eq] at h
    exact absurd (List.cons.inj h).1 (by decide)
  refine ⟨fun h => ?_, lineString_eq_of_printed⟩
  by_cases hps : ps = []
  · by_cases hqs : qs = []
    · rw [hps, hqs]
    · rw [hps] at h
      exact absurd h (hdiffer hqs)
  · by_cases hqs : qs = []
    · rw [hqs] at h
      exact absurd h.symm (hdiffer hps)
    · rw [← String.toList_inj, toList_lineString hps, toList_lineString hqs,
        List.append_cancel_left_eq, List.cons_inj_right, List.append_cancel_right_eq] at h
      apply printed_of_ended
      rw [← toList_coordinates hps, ← toList_coordinates hqs, h]

/-- No quotation mark stands in the text of a line. -/
theorem quote_notMem_lineString (points : List Point) : '\x22' ∉ (lineString points).toList := by
  by_cases hne : points = []
  · rw [hne]
    simp [lineString]
  · intro hquote
    have hquote : '\x22' ∈ (coordinates points).toList := by
      simpa [toList_lineString hne] using hquote
    rcases mem_coordinates hquote with hc | ⟨p, -, hc | hc | hc⟩
    · exact absurd hc (by decide)
    · exact (longitude_chars hc).2 rfl
    · exact absurd hc (by decide)
    · exact (latitude_chars hc).2 rfl

/-! ## Rows -/

/-- A name and a description with what stands between them in a row. -/
def named (name description : String) : String := name ++ "\x22, \x22" ++ description

theorem toList_row (geometry name description : String) :
    (row geometry name description).toList =
      '\x22' :: (geometry.toList ++ '\x22' :: (", \x22".toList ++
        ((named name description).toList ++ ['\x22']))) := by
  simp [row, named]

/-- Without a quotation mark in it, a name goes as far as the first. -/
theorem named_inj {name name' description description' : String} (hname : '\x22' ∉ name.toList)
    (hname' : '\x22' ∉ name'.toList) (h : named name description = named name' description') :
    name = name' ∧ description = description' := by
  have htext (name description : String) : (named name description).toList =
      name.toList ++ '\x22' :: (", \x22".toList ++ description.toList) := by
    simp [named]
  rw [← String.toList_inj, htext, htext, append_cons_inj hname hname',
    List.append_cancel_left_eq] at h
  exact ⟨String.toList_inj.mp h.1, String.toList_inj.mp h.2⟩

/-- **The rows of two lines are equal just where the lines are written alike and the names, with
what stands behind them, are the same text.** Where neither name holds a quotation mark, the names
and the descriptions are then equal. -/
theorem row_eq_row (ps qs : List Point) (name name' description description' : String) :
    (row (lineString ps) name description = row (lineString qs) name' description' ↔
      ps.map Point.printed = qs.map Point.printed ∧
        named name description = named name' description') ∧
    ('\x22' ∉ name.toList → '\x22' ∉ name'.toList →
      row (lineString ps) name description = row (lineString qs) name' description' →
        name = name' ∧ description = description' ∧
          ps.map Point.printed = qs.map Point.printed) := by
  have hiff : row (lineString ps) name description = row (lineString qs) name' description' ↔
      ps.map Point.printed = qs.map Point.printed ∧
        named name description = named name' description' := by
    rw [← String.toList_inj, toList_row, toList_row, List.cons_inj_right,
      append_cons_inj (quote_notMem_lineString ps) (quote_notMem_lineString qs),
      List.append_cancel_left_eq, List.append_cancel_right_eq, String.toList_inj,
      String.toList_inj, lineString_eq]
  refine ⟨hiff, fun hname hname' h => ?_⟩
  obtain ⟨hprinted, hnamed⟩ := hiff.mp h
  obtain ⟨hsame, hsame'⟩ := named_inj hname hname' hnamed
  exact ⟨hsame, hsame', hprinted⟩

/-- Two rows of names without quotation marks are told apart by their descriptions. -/
theorem row_eq_row_descriptions :
    row (lineString [⟨.whole 1, .whole 2, 0⟩]) "a" "b" ≠
      row (lineString [⟨.whole 1, .whole 2, 0⟩]) "a" "b\x22, \x22c" := by
  intro h
  have hsame := (row_eq_row _ _ _ _ _ _).2 (by decide) (by decide) h
  exact absurd hsame.2.1 (by decide)

/-- A name that holds a quotation mark takes over the beginning of a description. -/
theorem not_row_injective : ¬∀ (ps qs : List Point) (name name' description description' : String),
    row (lineString ps) name description = row (lineString qs) name' description' →
      name = name' ∧ description = description' ∧
        ps.map Point.printed = qs.map Point.printed := by
  intro h
  have hsame := h [] [] "a\x22, \x22b" "a" "c" "b\x22, \x22c" (by decide)
  exact absurd hsame.1 (by decide)

end MetesBounds.Wkt
