import MetesBounds.Proofs.Angle.Reading

/-!
# `Angle/Grammar` — how angles and bearings are written

An angle is degrees, minutes and seconds in digits, each with its mark behind it or without, and with
spaces in between. A bearing is an angle with the letter of a pole in front and the letter of a side
behind it, or without them. A text is one of these with spaces at its ends and at most one end of
line at the very end. `Dms.IsReading` and `Bearing.IsReading` say so, and what is read is the longest
reading that there is.

Main statements: `Dms.read_eq_some_iff` and `Bearing.read_eq_some_iff`.
-/

set_option autoImplicit false

namespace MetesBounds

/-! ## What is written -/

/-- Spaces, any number of them. -/
def IsSpaces (cs : List Char) : Prop := ∀ c ∈ cs, c = ' '

/-- A mark, or nothing. -/
def IsMark (mark : Char) (cs : List Char) : Prop := cs = [] ∨ cs = [mark]

/-- The end of a text: nothing, or one end of line. -/
def IsEnd (cs : List Char) : Prop := cs = [] ∨ cs = ['\n']

/-- The characters of an angle. -/
def Dms.Spells (a : Dms) (body : List Char) : Prop :=
  a.IsWritten ∧ ∃ m₁ s₁ m₂ s₂ m₃ s₃,
    IsMark '°' m₁ ∧ IsSpaces s₁ ∧ IsMark '\x27' m₂ ∧ IsSpaces s₂ ∧ IsMark '\x22' m₃ ∧ IsSpaces s₃ ∧
      body = a.degrees ++ m₁ ++ s₁ ++ a.minutes ++ m₂ ++ s₂ ++ a.seconds ++ m₃ ++ s₃

/-- A text is an angle. -/
def Dms.IsReading (cs : List Char) (a : Dms) : Prop :=
  ∃ front body last, IsSpaces front ∧ a.Spells body ∧ IsEnd last ∧ cs = front ++ body ++ last

/-- A text is an angle, and in no other reading does it take more digits, compared from the front. -/
def Dms.IsLongest (cs : List Char) (a : Dms) : Prop :=
  a.IsReading cs ∧ ∀ a' : Dms, a'.IsReading cs → a.Outreaches a'

/-- The characters that name a pole. -/
def Pole.letters : Pole → List Char
  | .north => ['-', 'N', 'n']
  | .south => ['S', 's', 'ſ']

/-- The characters that name a side. -/
def Side.letters : Side → List Char
  | .east => ['E', 'e']
  | .west => ['W', 'w']

/-- One of the letters for a thing, or nothing for none. -/
def Names {α : Type} (letters : α → List Char) : Option α → List Char → Prop
  | none, cs => cs = []
  | some x, cs => ∃ c ∈ letters x, cs = [c]

/-- A text is a bearing. -/
def Bearing.IsReading (cs : List Char) (b : Bearing) : Prop :=
  ∃ s₁ p s₂ body e s₃ last, IsSpaces s₁ ∧ Names Pole.letters b.pole p ∧ IsSpaces s₂ ∧
    b.angle.Spells body ∧ Names Side.letters b.side e ∧ IsSpaces s₃ ∧ IsEnd last ∧
      cs = s₁ ++ p ++ s₂ ++ body ++ e ++ s₃ ++ last

/-- A text is a bearing, and in no other reading does its angle take more digits, compared from the
front. -/
def Bearing.IsLongest (cs : List Char) (b : Bearing) : Prop :=
  b.IsReading cs ∧ ∀ b' : Bearing, b'.IsReading cs → b.angle.Outreaches b'.angle

namespace Dms

variable {cs s m rest : List Char} {mark : Char}

/-! ## Spaces and marks -/

theorem dropSpaces_append (h : IsSpaces s) (cs : List Char) :
    dropSpaces (s ++ cs) = dropSpaces cs :=
  List.dropWhile_append_of_pos fun c hc => beq_iff_eq.mpr (h c hc)

theorem dropSpaces_of_head (h : cs.head? ≠ some ' ') : dropSpaces cs = cs := by
  cases cs with
  | nil => rfl
  | cons c cs =>
    refine List.dropWhile_cons_of_neg fun hc => h ?_
    rw [List.head?_cons, beq_iff_eq.mp hc]

/-- Characters are spaces, and what is left without them. -/
theorem exists_spaces (cs : List Char) : ∃ s, IsSpaces s ∧ cs = s ++ dropSpaces cs := by
  refine ⟨cs.takeWhile (· == ' '), fun c hc => ?_, List.takeWhile_append_dropWhile.symm⟩
  exact beq_iff_eq.mp (List.all_eq_true.mp List.all_takeWhile c hc)

theorem afterGap_append (hm : IsMark mark m) (hs : IsSpaces s) (hspace : mark ≠ ' ')
    (hrest : rest.head? ≠ some mark) : afterGap mark (m ++ s ++ rest) = dropSpaces rest := by
  have hnone (cs : List Char) (h : cs.head? ≠ some mark) : dropMark mark cs = cs := by
    cases cs with
    | nil => rfl
    | cons c cs =>
      rw [List.head?_cons, ne_eq, Option.some_inj] at h
      rw [dropMark, beq_eq_false_iff_ne.mpr h, if_neg Bool.false_ne_true]
  rcases hm with rfl | rfl
  · rw [List.nil_append, afterGap, hnone, dropSpaces_append hs]
    cases s with
    | nil => exact hrest
    | cons c s =>
      obtain rfl := hs c List.mem_cons_self
      exact fun h => hspace (Option.some_inj.mp h).symm
  · have hmark : dropMark mark ([mark] ++ s ++ rest) = s ++ rest := by
      rw [List.append_assoc, List.singleton_append, dropMark, beq_self_eq_true, if_pos rfl]
    rw [afterGap, hmark, dropSpaces_append hs]

/-- Characters are a mark that may be there and spaces, and what is left without them. -/
theorem exists_gap (mark : Char) (cs : List Char) :
    ∃ m s, IsMark mark m ∧ IsSpaces s ∧ cs = m ++ s ++ afterGap mark cs := by
  obtain ⟨s, hs, hcs⟩ := exists_spaces (dropMark mark cs)
  cases cs with
  | nil => exact ⟨[], s, .inl rfl, hs, hcs⟩
  | cons c cs =>
    rw [dropMark] at hcs
    split at hcs
    · next hc =>
      obtain rfl := beq_iff_eq.mp hc
      refine ⟨[c], s, .inr rfl, hs, ?_⟩
      rw [List.append_assoc, List.singleton_append, afterGap, dropMark, beq_self_eq_true, if_pos rfl,
        ← hcs]
    · next hc =>
      refine ⟨[], s, .inl rfl, hs, ?_⟩
      rw [List.nil_append, afterGap, dropMark, if_neg hc, ← hcs]

/-! ## Angles -/

variable {a : Dms} {body : List Char}

/-- A digit is none of the characters that stand around digits. -/
theorem head?_ne_of_runLength (h : 0 < runLength cs) {c : Char} (hc : Text.isDigit c = false) :
    cs.head? ≠ some c := by
  obtain ⟨d, cs, rfl, hd⟩ := exists_cons_of_runLength h
  rintro ⟨⟩
  rw [hd] at hc
  cases hc

theorem dropSpaces_of_runLength (h : 0 < runLength cs) : dropSpaces cs = cs :=
  dropSpaces_of_head (head?_ne_of_runLength h (by decide))

theorem IsShort.runLength_pos {ds : List Char} (h : IsShort ds) (rest : List Char) :
    0 < runLength (ds ++ rest) := by
  rw [runLength_append h.2]
  have := h.1
  omega

/-- An angle begins with a digit. -/
theorem Spells.runLength_pos (h : a.Spells body) (rest : List Char) : 0 < runLength (body ++ rest) := by
  obtain ⟨hw, m₁, s₁, m₂, s₂, m₃, s₃, -, -, -, -, -, -, rfl⟩ := h
  have hpos := List.length_pos_iff.mpr hw.someDegrees
  simp only [List.append_assoc]
  rw [runLength_append hw.degrees]
  omega

/-- An angle that is written stands at the front. -/
theorem Spells.leads (h : a.Spells body) (hrest : rest.head? ≠ some '\x22') :
    a.Leads (body ++ rest) (dropSpaces rest) := by
  obtain ⟨hw, m₁, s₁, m₂, s₂, m₃, s₃, hm₁, hs₁, hm₂, hs₂, hm₃, hs₃, rfl⟩ := h
  have hgap {mark : Char} {m s ds : List Char} (hm : IsMark mark m) (hs : IsSpaces s)
      (hspace : mark ≠ ' ') (hmark : Text.isDigit mark = false) (hds : IsShort ds)
      (rest : List Char) : afterGap mark (m ++ s ++ (ds ++ rest)) = ds ++ rest := by
    have hrun := hds.runLength_pos rest
    rw [afterGap_append hm hs hspace (head?_ne_of_runLength hrun hmark),
      dropSpaces_of_runLength hrun]
  refine ⟨hw, m₁ ++ s₁ ++ (a.minutes ++ (m₂ ++ s₂ ++ (a.seconds ++ (m₃ ++ s₃ ++ rest)))),
    m₂ ++ s₂ ++ (a.seconds ++ (m₃ ++ s₃ ++ rest)), m₃ ++ s₃ ++ rest, ?_, ?_, ?_, ?_⟩
  · simp only [List.append_assoc]
  · exact hgap hm₁ hs₁ (by decide) (by decide) hw.minutes _
  · exact hgap hm₂ hs₂ (by decide) (by decide) hw.seconds _
  · exact afterGap_append hm₃ hs₃ (by decide) hrest

/-- An angle at the front is written there. -/
theorem Leads.exists_spells (h : a.Leads cs rest) : ∃ body, a.Spells body ∧ cs = body ++ rest := by
  obtain ⟨hw, c₁, c₂, c₃, rfl, hc₁, hc₂, rfl⟩ := h
  obtain ⟨m₁, s₁, hm₁, hs₁, hgap₁⟩ := exists_gap '°' c₁
  obtain ⟨m₂, s₂, hm₂, hs₂, hgap₂⟩ := exists_gap '\x27' c₂
  obtain ⟨m₃, s₃, hm₃, hs₃, hgap₃⟩ := exists_gap '\x22' c₃
  refine ⟨_, ⟨hw, m₁, s₁, m₂, s₂, m₃, s₃, hm₁, hs₁, hm₂, hs₂, hm₃, hs₃, rfl⟩, ?_⟩
  rw [hc₁] at hgap₁
  rw [hc₂] at hgap₂
  rw [hgap₁, hgap₂]
  simp only [List.append_assoc]
  rw [← List.append_assoc m₃, ← hgap₃]

theorem atEnd_iff : atEnd cs = true ↔ IsEnd cs := by
  rw [IsEnd]
  rcases cs with _ | ⟨c, _ | ⟨d, cs⟩⟩
  · simp [atEnd]
  · by_cases hc : c = '\n' <;> simp [atEnd, hc]
  · simp [atEnd]

/-- The end of a text begins with none of the characters that stand around digits. -/
theorem head?_ne_of_isEnd (h : IsEnd cs) {c : Char} (hc : c ≠ '\n') : cs.head? ≠ some c := by
  rcases h with rfl | rfl
  · exact nofun
  · exact fun h => hc (Option.some_inj.mp h).symm

/-- Behind an angle that is a whole text there is nothing but its end. -/
def nothingMore (rest : List Char) : Option Unit := if atEnd rest then some () else none

theorem nothingMore_eq_some_iff {u : Unit} : nothingMore cs = some u ↔ IsEnd cs := by
  rw [nothingMore, ← atEnd_iff]
  split
  · next h => exact ⟨fun _ => h, fun _ => rfl⟩
  · next h => exact ⟨nofun, fun hend => absurd hend h⟩

/-- A digit is not the end. -/
theorem nothingMore_eq_none (cs : List Char) (h : 0 < runLength cs) : nothingMore cs = none := by
  rw [Option.eq_none_iff_forall_ne_some]
  intro u hu
  rcases nothingMore_eq_some_iff.mp hu with rfl | rfl <;> exact absurd h (by decide)

theorem isReading_iff : a.IsReading cs ↔ ∃ rest, a.Leads (dropSpaces cs) rest ∧ IsEnd rest := by
  constructor
  · rintro ⟨front, body, last, hfront, hbody, hlast, rfl⟩
    refine ⟨last, ?_, hlast⟩
    rw [List.append_assoc, dropSpaces_append hfront,
      dropSpaces_of_runLength (hbody.runLength_pos last)]
    have hlead := hbody.leads (head?_ne_of_isEnd hlast (by decide))
    rwa [dropSpaces_of_head (head?_ne_of_isEnd hlast (by decide))] at hlead
  · rintro ⟨last, hlead, hlast⟩
    obtain ⟨body, hbody, hcs⟩ := hlead.exists_spells
    obtain ⟨front, hfront, hsplit⟩ := exists_spaces cs
    refine ⟨front, body, last, hfront, hbody, hlast, ?_⟩
    rw [List.append_assoc, ← hcs, ← hsplit]

/-- **A text is read as the angle that it is**, and where it can be read in several ways, as the one
with the most digits, compared from the front. -/
theorem read_eq_some_iff : read cs = some a ↔ a.IsLongest cs := by
  have hread : read cs = some a ↔ Counts nothingMore (dropSpaces cs) a () := by
    rw [← readThen_eq_some_iff nothingMore_eq_none]
    exact Option.map_eq_some_iff.trans ⟨by rintro ⟨_, h, rfl⟩; exact h, fun h => ⟨_, h, rfl⟩⟩
  simp only [hread, Counts, IsLongest, nothingMore_eq_some_iff, isReading_iff, Option.isSome_iff_exists,
    exists_const, forall_exists_index, and_imp]

/-- No angle is read where there is none. -/
theorem read_eq_none_iff : read cs = none ↔ ∀ a : Dms, ¬a.IsReading cs := by
  refine Option.map_eq_none_iff.trans ((readThen_eq_none_iff nothingMore_eq_none).trans ?_)
  constructor
  · intro h a ha
    obtain ⟨rest, hlead, hend⟩ := isReading_iff.mp ha
    have hmore : nothingMore rest = some () := nothingMore_eq_some_iff.mpr hend
    rw [h a rest hlead] at hmore
    cases hmore
  · intro h a rest hlead
    rw [Option.eq_none_iff_forall_ne_some]
    exact fun _ hmore => h a (isReading_iff.mpr ⟨rest, hlead, nothingMore_eq_some_iff.mp hmore⟩)

end Dms

namespace Bearing

open Dms

variable {cs s rest : List Char}

/-! ## Letters -/

theorem poleOf?_eq_some_iff {c : Char} {p : Pole} : poleOf? c = some p ↔ c ∈ p.letters := by
  simp only [poleOf?, Bool.or_eq_true, beq_iff_eq]
  split
  · next h => rcases h with (rfl | rfl) | rfl <;> cases p <;> decide
  · next hn =>
    split
    · next h => rcases h with (rfl | rfl) | rfl <;> cases p <;> decide
    · next hs => cases p <;> simp_all [Pole.letters]

theorem sideOf?_eq_some_iff {c : Char} {x : Side} : sideOf? c = some x ↔ c ∈ x.letters := by
  simp only [sideOf?, Bool.or_eq_true, beq_iff_eq]
  split
  · next h => rcases h with rfl | rfl <;> cases x <;> decide
  · next he =>
    split
    · next h => rcases h with rfl | rfl <;> cases x <;> decide
    · next hw => cases x <;> simp_all [Side.letters]

/-- Digits and spaces are no letters. -/
theorem poleOf?_eq_none {c : Char} (h : Text.isDigit c = true ∨ c = ' ') : poleOf? c = none := by
  rcases h with hdigit | rfl
  · rw [Option.eq_none_iff_forall_ne_some]
    intro p hp
    have hletters : (p.letters.all fun c => !Text.isDigit c) = true := by cases p <;> decide
    have hc := List.all_eq_true.mp hletters c (poleOf?_eq_some_iff.mp hp)
    rw [hdigit] at hc
    cases hc
  · rfl

/-! ## In front -/

/-- What is in front of an angle is taken off. -/
theorem splitPole_append {o : Option Pole} {s₁ p s₂ : List Char} (hs₁ : IsSpaces s₁)
    (hp : Names Pole.letters o p) (hs₂ : IsSpaces s₂) (hrest : 0 < runLength rest) :
    (splitPole (dropSpaces (s₁ ++ p ++ s₂ ++ rest))).1 = o ∧
      dropSpaces (splitPole (dropSpaces (s₁ ++ p ++ s₂ ++ rest))).2 = rest := by
  have htight := dropSpaces_of_runLength hrest
  obtain ⟨d, rest, rfl, hd⟩ := exists_cons_of_runLength hrest
  cases o with
  | none =>
    obtain rfl : p = [] := hp
    have hdrop : dropSpaces (s₁ ++ [] ++ s₂ ++ d :: rest) = d :: rest := by
      rw [List.append_nil, List.append_assoc, dropSpaces_append hs₁, dropSpaces_append hs₂, htight]
    rw [hdrop, splitPole, poleOf?_eq_none (.inl hd)]
    exact ⟨rfl, htight⟩
  | some x =>
    obtain ⟨c, hc, rfl⟩ := hp
    have hdrop : dropSpaces (s₁ ++ [c] ++ s₂ ++ d :: rest) = c :: (s₂ ++ d :: rest) := by
      rw [List.append_assoc, List.append_assoc, dropSpaces_append hs₁]
      refine dropSpaces_of_head ?_
      rintro ⟨⟩
      cases x <;> exact absurd hc (by decide)
    rw [hdrop, splitPole, poleOf?_eq_some_iff.mpr hc]
    exact ⟨rfl, (dropSpaces_append hs₂ _).trans htight⟩

/-- What is taken off in front of an angle is the letter of a pole, or nothing, with spaces. -/
theorem exists_front (cs : List Char) : ∃ s₁ p s₂, IsSpaces s₁ ∧
    Names Pole.letters (splitPole (dropSpaces cs)).1 p ∧ IsSpaces s₂ ∧
      cs = s₁ ++ p ++ s₂ ++ dropSpaces (splitPole (dropSpaces cs)).2 := by
  obtain ⟨s₁, hs₁, hcs⟩ := exists_spaces cs
  generalize dropSpaces cs = ds at hcs
  obtain ⟨s₂, hs₂, hds⟩ := exists_spaces (splitPole ds).2
  cases ds with
  | nil =>
    have hnone : dropSpaces (splitPole []).2 = [] := rfl
    exact ⟨s₁, [], [], hs₁, rfl, nofun, by simp only [hcs, hnone, List.append_nil]⟩
  | cons c ds =>
    cases hc : poleOf? c with
    | some p =>
      have hsplit : splitPole (c :: ds) = (some p, ds) := by rw [splitPole, hc]
      rw [hsplit] at hds ⊢
      refine ⟨s₁, [c], s₂, hs₁, ⟨c, poleOf?_eq_some_iff.mp hc, rfl⟩, hs₂, ?_⟩
      rw [hcs, List.append_assoc, List.append_assoc, ← hds]
      rfl
    | none =>
      have hsplit : splitPole (c :: ds) = (none, c :: ds) := by rw [splitPole, hc]
      rw [hsplit] at hds ⊢
      refine ⟨s₁, [], s₂, hs₁, rfl, hs₂, ?_⟩
      rw [hcs, List.append_nil, List.append_assoc, ← hds]

/-! ## Behind -/

theorem readSide_append {o : Option Side} {e s last : List Char} (he : Names Side.letters o e)
    (hs : IsSpaces s) (hlast : IsEnd last) :
    readSide (dropSpaces (e ++ s ++ last)) = some o := by
  have hend : dropSpaces (s ++ last) = last := by
    rw [dropSpaces_append hs, dropSpaces_of_head (head?_ne_of_isEnd hlast (by decide))]
  cases o with
  | none =>
    obtain rfl : e = [] := he
    rw [List.nil_append, hend]
    rcases hlast with rfl | rfl <;> rfl
  | some x =>
    obtain ⟨c, hc, rfl⟩ := he
    have hspace : ([c] ++ s ++ last).head? ≠ some ' ' := by
      rintro ⟨⟩
      cases x <;> exact absurd hc (by decide)
    rw [dropSpaces_of_head hspace, List.append_assoc, List.singleton_append, readSide,
      sideOf?_eq_some_iff.mpr hc]
    dsimp only
    rw [hend, if_pos (atEnd_iff.mpr hlast)]

theorem head?_ne_quote {o : Option Side} {e s last : List Char} (he : Names Side.letters o e)
    (hs : IsSpaces s) (hlast : IsEnd last) : (e ++ s ++ last).head? ≠ some '\x22' := by
  intro h
  have hmem := List.mem_of_mem_head? h
  rw [List.mem_append, List.mem_append] at hmem
  rcases hmem with (hmem | hmem) | hmem
  · cases o with
    | none =>
      obtain rfl : e = [] := he
      cases hmem
    | some x =>
      obtain ⟨c, hc, rfl⟩ := he
      cases List.mem_singleton.mp hmem
      cases x <;> exact absurd hc (by decide)
  · exact absurd (hs _ hmem) (by decide)
  · rcases hlast with rfl | rfl <;> exact absurd hmem (by decide)

theorem exists_of_readSide {o : Option Side} (h : readSide cs = some o) :
    ∃ e s last, Names Side.letters o e ∧ IsSpaces s ∧ IsEnd last ∧ cs = e ++ s ++ last := by
  cases cs with
  | nil =>
    cases h
    exact ⟨[], [], [], rfl, nofun, .inl rfl, rfl⟩
  | cons c cs =>
    rw [readSide] at h
    split at h
    · next x hx =>
      split at h
      · next hend =>
        cases h
        obtain ⟨s, hs, hcs⟩ := exists_spaces cs
        refine ⟨[c], s, _, ⟨c, sideOf?_eq_some_iff.mp hx, rfl⟩, hs, atEnd_iff.mp hend, ?_⟩
        rw [List.append_assoc, ← hcs]
        rfl
      · cases h
    · split at h
      · next hend =>
        cases h
        exact ⟨[], [], c :: cs, rfl, nofun, atEnd_iff.mp hend, rfl⟩
      · cases h

/-- A digit is neither a side nor the end. -/
theorem readSide_eq_none (cs : List Char) (h : 0 < runLength cs) : readSide cs = none := by
  obtain ⟨c, cs, rfl, hc⟩ := exists_cons_of_runLength h
  have hside : sideOf? c = none := by
    rw [Option.eq_none_iff_forall_ne_some]
    intro x hx
    have hletters : (x.letters.all fun c => !Text.isDigit c) = true := by cases x <;> decide
    have hnot := List.all_eq_true.mp hletters c (sideOf?_eq_some_iff.mp hx)
    rw [hc] at hnot
    cases hnot
  have hend : ¬atEnd (c :: cs) = true := by
    rw [atEnd_iff]
    rintro (h | h)
    · cases h
    · cases h
      exact absurd hc (by decide)
  rw [readSide, hside]
  exact if_neg hend

/-! ## Reading -/

variable {b : Bearing}

theorem isReading_iff : b.IsReading cs ↔ (splitPole (dropSpaces cs)).1 = b.pole ∧
    ∃ rest, b.angle.Leads (dropSpaces (splitPole (dropSpaces cs)).2) rest ∧
      readSide rest = some b.side := by
  constructor
  · rintro ⟨s₁, p, s₂, body, e, s₃, last, hs₁, hp, hs₂, hbody, he, hs₃, hlast, rfl⟩
    obtain ⟨hpole, hrest⟩ :=
      splitPole_append hs₁ hp hs₂ (hbody.runLength_pos (e ++ s₃ ++ last))
    have hcs : s₁ ++ p ++ s₂ ++ body ++ e ++ s₃ ++ last =
        s₁ ++ p ++ s₂ ++ (body ++ (e ++ s₃ ++ last)) := by simp only [List.append_assoc]
    rw [hcs, hrest]
    exact ⟨hpole, _, hbody.leads (head?_ne_quote he hs₃ hlast), readSide_append he hs₃ hlast⟩
  · rintro ⟨hpole, rest, hlead, hside⟩
    obtain ⟨body, hbody, hcs⟩ := hlead.exists_spells
    obtain ⟨s₁, p, s₂, hs₁, hp, hs₂, hsplit⟩ := exists_front cs
    obtain ⟨e, s₃, last, he, hs₃, hlast, rfl⟩ := exists_of_readSide hside
    rw [hpole] at hp
    refine ⟨s₁, p, s₂, body, e, s₃, last, hs₁, hp, hs₂, hbody, he, hs₃, hlast, ?_⟩
    rw [hsplit, hcs]
    simp only [List.append_assoc]

/-- **A text is read as the bearing that it is**, and where it can be read in several ways, as the
one whose angle has the most digits, compared from the front. -/
theorem read_eq_some_iff : read cs = some b ↔ b.IsLongest cs := by
  have hread : read cs = some b ↔ (splitPole (dropSpaces cs)).1 = b.pole ∧
      Counts readSide (dropSpaces (splitPole (dropSpaces cs)).2) b.angle b.side := by
    rw [← readThen_eq_some_iff readSide_eq_none]
    refine Option.map_eq_some_iff.trans ⟨?_, fun ⟨hpole, h⟩ => ⟨_, h, ?_⟩⟩
    · rintro ⟨⟨a, side⟩, h, rfl⟩
      exact ⟨rfl, h⟩
    · rw [hpole]
  rw [hread, IsLongest, isReading_iff, Counts, and_assoc]
  refine and_congr_right fun _ => and_congr_right fun _ => ⟨fun h b' hb' => ?_, fun h a' rest' => ?_⟩
  · obtain ⟨-, rest', hlead', hside'⟩ := isReading_iff.mp hb'
    exact h b'.angle rest' hlead' (Option.isSome_iff_exists.mpr ⟨_, hside'⟩)
  · intro hlead' hsome
    obtain ⟨side', hside'⟩ := Option.isSome_iff_exists.mp hsome
    exact h ⟨_, a', side'⟩ (isReading_iff.mpr ⟨rfl, rest', hlead', hside'⟩)

/-- No bearing is read where there is none. -/
theorem read_eq_none_iff : read cs = none ↔ ∀ b : Bearing, ¬b.IsReading cs := by
  refine Option.map_eq_none_iff.trans ((readThen_eq_none_iff readSide_eq_none).trans ?_)
  constructor
  · intro h b hb
    obtain ⟨-, rest, hlead, hside⟩ := isReading_iff.mp hb
    rw [h b.angle rest hlead] at hside
    cases hside
  · intro h a rest hlead
    rw [Option.eq_none_iff_forall_ne_some]
    exact fun side hside => h ⟨_, a, side⟩ (isReading_iff.mpr ⟨rfl, rest, hlead, hside⟩)

end Bearing

end MetesBounds
