import MetesBounds.Proofs.Angle.Texts
import MetesBounds.Proofs.Calculation.Exact

/-!
# `Angle/Exchange` — a bearing with both its letters exchanged

With the opposite pole in front and the opposite side behind it an angle gives the opposite
direction. A text and the same text with its letters exchanged are read alike: angles hold no
letters, so that every reading of the one is a reading of the other, and the longest readings have
the same angle, however many ways there are to split its digits. What is left is one congruence
modulo a whole turn for each quadrant.

Main statement: `Bearing.opposite_of_exchanged`.
-/

set_option autoImplicit false

namespace MetesBounds

open Text (IsDigits)
open Reckoning (exact wrap_exact wrap_exact_eq_iff)

def Pole.opposite : Pole → Pole
  | .north => .south
  | .south => .north

def Side.opposite : Side → Side
  | .east => .west
  | .west => .east

namespace Bearing

/-- The same angle between the opposite letters. -/
def turned (b : Bearing) : Bearing := ⟨b.pole.map Pole.opposite, b.angle, b.side.map Side.opposite⟩

/-- The letter of the opposite pole or side in the same case; any other character as it is. -/
def exchange : Char → Char
  | 'N' => 'S'
  | 'n' => 's'
  | 'S' => 'N'
  | 's' => 'n'
  | 'E' => 'W'
  | 'e' => 'w'
  | 'W' => 'E'
  | 'w' => 'e'
  | c => c

/-- Poles are named by N and S only, not by a minus sign or a long s. -/
def NamesPlainly (cs : List Char) : Prop := '-' ∉ cs ∧ 'ſ' ∉ cs

/-- A text is an angle with N or S in front of it and E or W behind it, in either case. -/
def IsQuadrant (cs : List Char) : Prop :=
  NamesPlainly cs ∧ ∃ b : Bearing, b.IsReading cs ∧ b.pole.isSome ∧ b.side.isSome

/-! ## Characters -/

/-- A character of an angle, or one that may stand around it and is no letter. -/
def isUnlettered (c : Char) : Bool :=
  Text.isDigit c || [' ', '°', '\x27', '\x22', '\n'].contains c

section Characters

variable {c : Char}

theorem exchange_of_not_mem (h : c ∉ ['N', 'n', 'S', 's', 'E', 'e', 'W', 'w']) :
    exchange c = c := by
  unfold exchange
  split <;> first | rfl | exact absurd (by decide) h

theorem exchange_exchange (c : Char) : exchange (exchange c) = c := by
  by_cases h : c ∈ ['N', 'n', 'S', 's', 'E', 'e', 'W', 'w']
  · simp only [List.mem_cons, List.not_mem_nil, or_false] at h
    rcases h with rfl | rfl | rfl | rfl | rfl | rfl | rfl | rfl <;> rfl
  · rw [exchange_of_not_mem h, exchange_of_not_mem h]

/-- None of some letters is a character of an angle. -/
theorem not_mem_of_isUnlettered {letters : List Char} (h : isUnlettered c = true)
    (hletters : (letters.all fun d => !isUnlettered d) = true) : c ∉ letters := by
  intro hc
  have hnot := List.all_eq_true.mp hletters c hc
  rw [h] at hnot
  cases hnot

theorem exchange_of_isUnlettered (h : isUnlettered c = true) : exchange c = c :=
  exchange_of_not_mem (not_mem_of_isUnlettered h (by decide))

end Characters

section Pieces

variable {cs body : List Char} {a : Dms}

theorem isUnlettered_of_isDigits (h : IsDigits cs) : ∀ c ∈ cs, isUnlettered c = true :=
  fun c hc => by rw [isUnlettered, h c hc, Bool.true_or]

theorem isUnlettered_of_isSpaces (h : IsSpaces cs) : ∀ c ∈ cs, isUnlettered c = true :=
  fun c hc => by
    rw [h c hc]
    decide

theorem isUnlettered_of_isMark {mark : Char} (h : IsMark mark cs)
    (hmark : isUnlettered mark = true) : ∀ c ∈ cs, isUnlettered c = true := by
  rcases h with rfl | rfl
  · exact nofun
  · exact List.forall_mem_singleton.mpr hmark

theorem isUnlettered_of_isEnd (h : IsEnd cs) : ∀ c ∈ cs, isUnlettered c = true :=
  isUnlettered_of_isMark (show IsMark '\n' cs from h) (by decide)

/-- An angle holds no letters. -/
theorem isUnlettered_of_spells (h : a.Spells body) : ∀ c ∈ body, isUnlettered c = true := by
  obtain ⟨hw, m₁, s₁, m₂, s₂, m₃, s₃, hm₁, hs₁, hm₂, hs₂, hm₃, hs₃, rfl⟩ := h
  simp only [List.forall_mem_append]
  exact ⟨⟨⟨⟨⟨⟨⟨⟨isUnlettered_of_isDigits hw.degrees, isUnlettered_of_isMark hm₁ (by decide)⟩,
    isUnlettered_of_isSpaces hs₁⟩, isUnlettered_of_isDigits hw.minutes.2⟩,
    isUnlettered_of_isMark hm₂ (by decide)⟩, isUnlettered_of_isSpaces hs₂⟩,
    isUnlettered_of_isDigits hw.seconds.2⟩, isUnlettered_of_isMark hm₃ (by decide)⟩,
    isUnlettered_of_isSpaces hs₃⟩

theorem map_exchange_eq (h : ∀ c ∈ cs, isUnlettered c = true) : cs.map exchange = cs :=
  List.map_congr_left (fun c hc => exchange_of_isUnlettered (h c hc)) |>.trans (List.map_id' cs)

end Pieces

/-! ## Readings -/

section Readings

variable {cs : List Char} {b : Bearing}

/-- Whatever the reading, its letters are all the letters of the text. -/
theorem IsReading.mem_cases (h : b.IsReading cs) {c : Char} (hc : c ∈ cs) : isUnlettered c = true ∨
    (∃ x, b.pole = some x ∧ c ∈ x.letters) ∨ ∃ y, b.side = some y ∧ c ∈ y.letters := by
  obtain ⟨s₁, p, s₂, body, e, s₃, last, hs₁, hp, hs₂, hbody, he, hs₃, hlast, rfl⟩ := h
  simp only [List.mem_append] at hc
  rcases hc with (((((hc | hc) | hc) | hc) | hc) | hc) | hc
  · exact .inl (isUnlettered_of_isSpaces hs₁ c hc)
  · cases hpole : b.pole with
    | none =>
      rw [hpole] at hp
      obtain rfl : p = [] := hp
      cases hc
    | some x =>
      rw [hpole] at hp
      obtain ⟨d, hd, rfl⟩ := hp
      exact .inr (.inl ⟨x, rfl, List.mem_singleton.mp hc ▸ hd⟩)
  · exact .inl (isUnlettered_of_isSpaces hs₂ c hc)
  · exact .inl (isUnlettered_of_spells hbody c hc)
  · cases hside : b.side with
    | none =>
      rw [hside] at he
      obtain rfl : e = [] := he
      cases hc
    | some y =>
      rw [hside] at he
      obtain ⟨d, hd, rfl⟩ := he
      exact .inr (.inr ⟨y, rfl, List.mem_singleton.mp hc ▸ hd⟩)
  · exact .inl (isUnlettered_of_isSpaces hs₃ c hc)
  · exact .inl (isUnlettered_of_isEnd hlast c hc)

theorem exchange_ne (c : Char) (hminus : c ≠ '-') (hlong : c ≠ 'ſ') :
    exchange c ≠ '-' ∧ exchange c ≠ 'ſ' := by
  constructor
  · exact fun h => hminus (by rw [← exchange_exchange c, h]; rfl)
  · exact fun h => hlong (by rw [← exchange_exchange c, h]; rfl)

theorem NamesPlainly.exchange (h : NamesPlainly cs) : NamesPlainly (cs.map exchange) := by
  have hne (c : Char) (hc : c ∈ cs) : Bearing.exchange c ≠ '-' ∧ Bearing.exchange c ≠ 'ſ' :=
    exchange_ne c (fun heq => h.1 (heq ▸ hc)) fun heq => h.2 (heq ▸ hc)
  constructor <;> intro hmem <;> obtain ⟨c, hc, heq⟩ := List.mem_map.mp hmem
  · exact (hne c hc).1 heq
  · exact (hne c hc).2 heq

theorem map_exchange_exchange (cs : List Char) : (cs.map exchange).map exchange = cs := by
  rw [List.map_map]
  exact (List.map_congr_left fun c _ => exchange_exchange c).trans (List.map_id' cs)

theorem names_exchanged_pole {o : Option Pole} {p : List Char} (h : Names Pole.letters o p)
    (hplain : NamesPlainly p) : Names Pole.letters (o.map Pole.opposite) (p.map exchange) := by
  cases o with
  | none => exact List.map_eq_nil_iff.mpr h
  | some x =>
    obtain ⟨c, hc, rfl⟩ := h
    refine ⟨exchange c, ?_, rfl⟩
    obtain ⟨hminus, hlong⟩ := hplain
    cases x <;> simp only [Pole.letters, List.mem_cons, List.not_mem_nil, or_false] at hc <;>
      rcases hc with rfl | rfl | rfl
    · exact absurd (List.mem_singleton_self _) hminus
    · decide
    · decide
    · decide
    · decide
    · exact absurd (List.mem_singleton_self _) hlong

theorem names_exchanged_side {o : Option Side} {e : List Char} (h : Names Side.letters o e) :
    Names Side.letters (o.map Side.opposite) (e.map exchange) := by
  cases o with
  | none => exact List.map_eq_nil_iff.mpr h
  | some y =>
    obtain ⟨c, hc, rfl⟩ := h
    refine ⟨exchange c, ?_, rfl⟩
    cases y <;> simp only [Side.letters, List.mem_cons, List.not_mem_nil, or_false] at hc <;>
      rcases hc with rfl | rfl <;> decide

/-- A reading of a text is one of the text with its letters exchanged, toward the opposite pole and
side. -/
theorem IsReading.exchanged (h : b.IsReading cs) (hplain : NamesPlainly cs) :
    b.turned.IsReading (cs.map exchange) := by
  obtain ⟨s₁, p, s₂, body, e, s₃, last, hs₁, hp, hs₂, hbody, he, hs₃, hlast, rfl⟩ := h
  have hp' : NamesPlainly p := by
    constructor
    · exact fun hmem => hplain.1 (by simp [hmem])
    · exact fun hmem => hplain.2 (by simp [hmem])
  refine ⟨s₁, p.map exchange, s₂, body, e.map exchange, s₃, last, hs₁,
    names_exchanged_pole hp hp', hs₂, hbody, names_exchanged_side he, hs₃, hlast, ?_⟩
  simp only [List.map_append, map_exchange_eq (isUnlettered_of_isSpaces hs₁),
    map_exchange_eq (isUnlettered_of_isSpaces hs₂), map_exchange_eq (isUnlettered_of_isSpaces hs₃),
    map_exchange_eq (isUnlettered_of_spells hbody), map_exchange_eq (isUnlettered_of_isEnd hlast)]

/-- **The longest reading of a text has the same angle as that of the text with its letters
exchanged.** -/
theorem IsLongest.exchanged (h : b.IsLongest cs) (hplain : NamesPlainly cs) :
    b.turned.IsLongest (cs.map exchange) := by
  refine ⟨h.1.exchanged hplain, fun b' hb' => ?_⟩
  have hback := hb'.exchanged hplain.exchange
  rw [map_exchange_exchange] at hback
  exact h.2 b'.turned hback

theorem IsReading.exists_side (h : b.IsReading cs) (hside : b.side.isSome) :
    ∃ (y : Side) (c : Char), c ∈ y.letters ∧ c ∈ cs := by
  obtain ⟨y, hy⟩ := Option.isSome_iff_exists.mp hside
  obtain ⟨s₁, p, s₂, body, e, s₃, last, -, -, -, -, he, -, -, hcs⟩ := h
  rw [hy] at he
  obtain ⟨c, hc, rfl⟩ := he
  exact ⟨y, c, hc, by simp [hcs]⟩

end Readings

/-- A plain decimal is digits, signs, a point and white space. -/
theorem decimal_of_isAzimuth {cs : List Char} (h : isAzimuth cs = true) : ∀ c ∈ cs,
    (Text.isDigit c || Text.isBlank c || ['+', '-', '.'].contains c) = true := by
  obtain ⟨p, before, after, hw, hbefore, hafter, rfl⟩ := isAzimuth_iff.mp h
  have hblank {cs : List Char} (h : ∀ c ∈ cs, Text.isBlank c = true) : ∀ c ∈ cs,
      (Text.isDigit c || Text.isBlank c || ['+', '-', '.'].contains c) = true :=
    fun c hc => by rw [h c hc, Bool.or_true, Bool.true_or]
  have hdigits {cs : List Char} (h : IsDigits cs) : ∀ c ∈ cs,
      (Text.isDigit c || Text.isBlank c || ['+', '-', '.'].contains c) = true :=
    fun c hc => by rw [h c hc, Bool.true_or, Bool.true_or]
  simp only [Decimal.Plain.body, List.forall_mem_append]
  refine ⟨⟨hblank hbefore, ?_, hdigits hw.whole, ?_⟩, hblank hafter⟩
  · rcases hw.sign with hsign | hsign | hsign <;> rw [hsign]
    · exact List.forall_mem_nil _
    · exact List.forall_mem_singleton.mpr (by decide)
    · exact List.forall_mem_singleton.mpr (by decide)
  · cases hfraction : p.fraction with
    | none => exact List.forall_mem_nil _
    | some ds =>
      rw [Decimal.pointed, List.forall_mem_cons]
      exact ⟨by decide, hdigits (hw.fraction ds hfraction)⟩

/-! ## Between two letters -/

section Quadrant

variable {cs : List Char} {b b' : Bearing}

theorem IsReading.pole_eq (h : b.IsReading cs) (h' : b'.IsReading cs) : b.pole = b'.pole :=
  (isReading_iff.mp h).1.symm.trans (isReading_iff.mp h').1

/-- The letter of a side names no pole, stands in no angle and in no plain decimal. -/
theorem side_letters (y : Side) : (y.letters.all fun c => !isUnlettered c &&
    !Pole.north.letters.contains c && !Pole.south.letters.contains c &&
      !(Text.isDigit c || Text.isBlank c || ['+', '-', '.'].contains c)) = true := by
  cases y <;> decide

/-- What is the letter of a side in one reading is so in every other. -/
theorem IsReading.side_isSome (h : b.IsReading cs) (h' : b'.IsReading cs)
    (hside : b'.side.isSome) : b.side.isSome := by
  obtain ⟨y, c, hc, hmem⟩ := h'.exists_side hside
  have hnot := List.all_eq_true.mp (side_letters y) c hc
  simp only [Bool.and_eq_true, Bool.not_eq_true'] at hnot
  rcases h.mem_cases hmem with hplain | ⟨x, -, hx⟩ | ⟨y', hy', -⟩
  · rw [hnot.1.1.1] at hplain
    cases hplain
  · have hpole : x.letters.contains c = false := by
      cases x
      · exact hnot.1.1.2
      · exact hnot.1.2
    rw [List.contains_iff_mem.mpr hx] at hpole
    cases hpole
  · exact Option.isSome_iff_exists.mpr ⟨y', hy'⟩

/-- With the letter of a side behind it nothing is a plain decimal. -/
theorem IsReading.isAzimuth_eq_false (h : b.IsReading cs) (hside : b.side.isSome) :
    isAzimuth cs = false := by
  obtain ⟨y, c, hc, hmem⟩ := h.exists_side hside
  have hnot := List.all_eq_true.mp (side_letters y) c hc
  simp only [Bool.and_eq_true, Bool.not_eq_true'] at hnot
  rw [Bool.eq_false_iff]
  intro hazimuth
  rw [decimal_of_isAzimuth hazimuth c hmem] at hnot
  cases hnot.2

end Quadrant

/-! ## Directions -/

section Directions

variable {b : Bearing}

/-- Half a turn on from an angle within one turn. -/
theorem wrap_add_half {d d' : ℚ} (h : d + 180 ≡ d' [PMOD 360]) :
    exact.wrap (exact.wrap d + 180) = exact.wrap d' :=
  wrap_exact_eq_iff.mpr (((wrap_exact d).2.add_right 180).trans h)

/-- The direction of a bearing with a letter in front and one behind, from the degrees of its
angle. -/
def directionOf (a : ℚ) : Pole → Side → ℚ
  | .north, .east => a
  | .south, .east => 180 - a
  | .south, .west => a + 180
  | .north, .west => 360 - a

theorem azimuth_between {x : Pole} {y : Side} (hpole : b.pole = some x) (hside : b.side = some y) :
    b.azimuth exact = do
      let a ← b.angle.value exact
      return exact.wrap (directionOf a x y) := by
  obtain ⟨pole, angle, side⟩ := b
  obtain rfl : pole = some x := hpole
  obtain rfl : side = some y := hside
  cases x <;> cases y <;> rfl

/-- The opposite letters give the opposite direction. -/
theorem directionOf_opposite (a : ℚ) (x : Pole) (y : Side) :
    directionOf a x y + 180 ≡ directionOf a x.opposite y.opposite [PMOD 360] := by
  rw [AddCommGroup.modEq_iff_eq_add_zsmul]
  cases x <;> cases y <;> simp only [directionOf, Pole.opposite, Side.opposite]
  · exact ⟨0, by norm_num⟩
  · exact ⟨-1, by norm_num; ring⟩
  · exact ⟨0, by norm_num; ring⟩
  · exact ⟨-1, by norm_num; ring⟩

end Directions

/-! ## Texts -/

section Texts

variable {cs : List Char} {s : String}

theorem IsQuadrant.exchanged (h : IsQuadrant cs) : IsQuadrant (cs.map exchange) := by
  obtain ⟨hplain, b, hb, hpole, hside⟩ := h
  exact ⟨hplain.exchange, b.turned, hb.exchanged hplain, by rwa [turned, Option.isSome_map],
    by rwa [turned, Option.isSome_map]⟩

/-- The longest reading of a text between two letters has both. -/
theorem IsQuadrant.exists_longest (h : IsQuadrant cs) :
    ∃ b x y, IsLongest cs b ∧ b.pole = some x ∧ b.side = some y := by
  obtain ⟨-, b', hb', hpole, hside⟩ := h
  obtain ⟨b, hb⟩ : ∃ b, read cs = some b :=
    Option.ne_none_iff_exists'.mp fun hnone => read_eq_none_iff.mp hnone b' hb'
  have hlongest := read_eq_some_iff.mp hb
  obtain ⟨x, hx⟩ := Option.isSome_iff_exists.mp hpole
  obtain ⟨y, hy⟩ := Option.isSome_iff_exists.mp (hlongest.1.side_isSome hb' hside)
  exact ⟨b, x, y, hlongest, (hlongest.1.pole_eq hb').trans hx, hy⟩

/-- A text gives the direction of its longest reading. -/
theorem IsLongest.bearing_eq {b : Bearing} {x : Pole} {y : Side} (h : b.IsLongest s.toList)
    (hpole : b.pole = some x) (hside : b.side = some y) :
    bearingOfValue exact (.text s) = do
      let a ← b.angle.value exact
      return exact.wrap (directionOf a x y) := by
  have hazimuth := h.1.isAzimuth_eq_false (Option.isSome_iff_exists.mpr ⟨y, hside⟩)
  have hbearing := (followsLongest_bearing exact hazimuth).longest b h
  exact hbearing.trans (azimuth_between hpole hside)

theorem IsQuadrant.opposite_eq (h : IsQuadrant s.toList) :
    oppositeOfValue exact (.text s) = bearingOfValue exact (.text (s.map exchange)) := by
  obtain ⟨b, x, y, hb, hpole, hside⟩ := h.exists_longest
  have hturned : b.turned.IsLongest (s.map exchange).toList := by
    rw [String.toList_map]
    exact hb.exchanged h.1
  have hpole' : b.turned.pole = some x.opposite := congrArg (Option.map Pole.opposite) hpole
  have hside' : b.turned.side = some y.opposite := congrArg (Option.map Side.opposite) hside
  rw [oppositeOfValue, hb.bearing_eq hpole hside, hturned.bearing_eq hpole' hside']
  have hsame : b.turned.angle = b.angle := rfl
  rw [hsame]
  cases b.angle.value exact with
  | error err => rfl
  | ok a => exact congrArg Except.ok (wrap_add_half (directionOf_opposite a x y))

/-- Where no row of digits is too long there is a direction. -/
theorem IsQuadrant.bearing_eq_ok (h : IsQuadrant s.toList)
    (hlong : ∀ ds, IsDigits ds → ds <:+: s.toList → ds.length ≤ 4300) :
    ∃ x ∈ Set.Ico 0 360, bearingOfValue exact (.text s) = .ok x := by
  obtain ⟨b, x, y, hb, hpole, hside⟩ := h.exists_longest
  obtain ⟨s₁, p, s₂, body, e, s₃, last, -, -, -, hbody, -, -, -, hcs⟩ := hb.1
  have hinfix : b.angle.degrees <:+: s.toList := by
    have hbody' := List.infix_append (s₁ ++ p ++ s₂) body (e ++ s₃ ++ last)
    rw [hcs]
    simpa only [List.append_assoc] using hbody.degrees_prefix.isInfix.trans hbody'
  have hcount := Dms.countOf_eq_ok (hlong _ hbody.1.degrees hinfix)
  rw [hb.bearing_eq hpole hside, Dms.value, hcount, hbody.1.minutes.countOf_eq_ok,
    hbody.1.seconds.countOf_eq_ok]
  exact ⟨_, (wrap_exact _).1, rfl⟩

end Texts

/-- **The opposite of a bearing is the bearing with both its letters exchanged**, and the other way
round. There is a direction unless there are more digits than are taken for a number. -/
theorem opposite_of_exchanged {s : String} (h : IsQuadrant s.toList) :
    oppositeOfValue exact (.text s) = bearingOfValue exact (.text (s.map exchange)) ∧
      bearingOfValue exact (.text s) = oppositeOfValue exact (.text (s.map exchange)) ∧
      ((∀ ds, IsDigits ds → ds <:+: s.toList → ds.length ≤ 4300) →
        ∃ x ∈ Set.Ico 0 360, bearingOfValue exact (.text s) = .ok x) := by
  have hexchanged : IsQuadrant (s.map exchange).toList := by
    rw [String.toList_map]
    exact h.exchanged
  have htwice : (s.map exchange).map exchange = s := by
    rw [← String.toList_inj, String.toList_map, String.toList_map, map_exchange_exchange]
  refine ⟨h.opposite_eq, ?_, h.bearing_eq_ok⟩
  rw [hexchanged.opposite_eq, htwice]

/-- Northwest is the opposite of southeast, also where the digits can be split in several ways. -/
theorem opposite_of_exchanged_northwest :
    IsQuadrant "n453015 w".toList ∧ "n453015 w".map exchange = "s453015 e" ∧
      oppositeOfValue exact (.text "n453015 w") = bearingOfValue exact (.text "s453015 e") ∧
      ∃ x ∈ Set.Ico 0 360, bearingOfValue exact (.text "n453015 w") = .ok x := by
  have hread : read "n453015 w".toList =
      some ⟨some .north, ⟨['4', '5', '3', '0'], ['1'], ['5']⟩, some .west⟩ := rfl
  have h : IsQuadrant "n453015 w".toList :=
    ⟨⟨by decide, by decide⟩, _, (read_eq_some_iff.mp hread).1, rfl, rfl⟩
  have hexchanged : "n453015 w".map exchange = "s453015 e" := by decide +kernel
  obtain ⟨hopposite, -, hdirection⟩ := opposite_of_exchanged h
  rw [hexchanged] at hopposite
  refine ⟨h, hexchanged, hopposite, hdirection fun ds _ hinfix => hinfix.length_le.trans ?_⟩
  decide

end Bearing

end MetesBounds
