import Mathlib.Data.List.Basic
import MetesBounds.Bearing

/-!
# `Angle/Reading` — the reading of an angle that counts

Degrees, minutes and seconds may follow one another without anything between them, so that digits
can be read as an angle in several ways. Which of them counts is said by their lengths: most digits
for the degrees, then for the minutes, then for the seconds. Reading takes the first way that reaches
the end, and it does not even try degrees that leave more than four digits of their row over.

`Dms.Leads` says how an angle stands at the front of some characters, one part after the other.
Given the lengths of the parts there is no choice left, so the longest reading is the only one of
its lengths.

Main statements: `Dms.readThen_eq_some_iff` and `Dms.readThen_eq_none_iff`.
-/

set_option autoImplicit false

namespace MetesBounds

/-- The first success among things of falling size is that of the largest for which there is one. -/
theorem exists_of_findSome?_falling {α β : Type} {f : α → Option β} {size : α → Nat} {l : List α}
    (hl : l.Pairwise fun x y => size y < size x) {b : β} (h : l.findSome? f = some b) :
    ∃ a ∈ l, f a = some b ∧ ∀ a' ∈ l, (f a').isSome → size a' ≤ size a := by
  obtain ⟨before, a, behind, rfl, ha, hbefore⟩ := List.findSome?_eq_some_iff.mp h
  refine ⟨a, List.mem_append_right _ List.mem_cons_self, ha, fun a' hmem hsome => ?_⟩
  rcases List.mem_append.mp hmem with hmem | hmem
  · rw [hbefore a' hmem] at hsome
    cases hsome
  · rcases List.mem_cons.mp hmem with rfl | hmem
    · exact Nat.le_refl _
    · have hpair := (List.pairwise_append.mp hl).2.1
      exact Nat.le_of_lt (List.rel_of_pairwise_cons hpair hmem)

/-- A row of digits. -/
def Text.IsDigits (cs : List Char) : Prop := ∀ c ∈ cs, Text.isDigit c = true

instance Text.decidableIsDigits (cs : List Char) : Decidable (Text.IsDigits cs) :=
  List.decidableBAll (fun c => Text.isDigit c = true) cs

open Text (IsDigits)

namespace Dms

/-! ## Rows of digits -/

/-- One or two digits. -/
def IsShort (cs : List Char) : Prop := (cs.length = 1 ∨ cs.length = 2) ∧ IsDigits cs

/-- The number of digits at the front of some characters. -/
def runLength (cs : List Char) : Nat := (cs.takeWhile Text.isDigit).length

variable {cs ds rest : List Char}

theorem runLength_append (h : IsDigits ds) (rest : List Char) :
    runLength (ds ++ rest) = ds.length + runLength rest := by
  rw [runLength, List.takeWhile_append_of_pos h, List.length_append, runLength]

theorem exists_cons_of_runLength (h : 0 < runLength cs) :
    ∃ c cs', cs = c :: cs' ∧ Text.isDigit c = true := by
  cases cs with
  | nil => cases h
  | cons c cs =>
    refine ⟨c, cs, rfl, ?_⟩
    by_contra hc
    rw [runLength, List.takeWhile_cons_of_neg hc] at h
    cases h

theorem mem_shortRuns : (ds, rest) ∈ shortRuns cs ↔ IsShort ds ∧ cs = ds ++ rest := by
  constructor
  · intro h
    rcases cs with _ | ⟨a, _ | ⟨b, cs⟩⟩
    · cases h
    · rw [shortRuns] at h
      split at h
      · next ha =>
        cases List.mem_singleton.mp h
        exact ⟨⟨.inl rfl, List.forall_mem_singleton.mpr ha⟩, rfl⟩
      · cases h
    · rw [shortRuns] at h
      split at h
      · next ha =>
        have hone : IsShort [a] := ⟨.inl rfl, List.forall_mem_singleton.mpr ha⟩
        split at h
        · next hb =>
          rcases List.mem_cons.mp h with h | h
          · cases h
            exact ⟨⟨.inr rfl, List.forall_mem_cons.mpr ⟨ha, List.forall_mem_singleton.mpr hb⟩⟩, rfl⟩
          · cases List.mem_singleton.mp h
            exact ⟨hone, rfl⟩
        · cases List.mem_singleton.mp h
          exact ⟨hone, rfl⟩
      · cases h
  · rintro ⟨⟨hlen | hlen, hds⟩, rfl⟩
    · obtain ⟨a, rfl⟩ := List.length_eq_one_iff.mp hlen
      have ha := hds a List.mem_cons_self
      cases rest with
      | nil => simp [shortRuns, ha]
      | cons b rest => cases hb : Text.isDigit b <;> simp [shortRuns, ha, hb]
    · obtain ⟨a, b, rfl⟩ := List.length_eq_two.mp hlen
      have ha := hds a List.mem_cons_self
      have hb := hds b (List.mem_cons_of_mem a List.mem_cons_self)
      simp [shortRuns, ha, hb]

theorem falling_shortRuns (cs : List Char) :
    (shortRuns cs).Pairwise fun x y => y.1.length < x.1.length := by
  rcases cs with _ | ⟨a, _ | ⟨b, cs⟩⟩
  · exact .nil
  · cases ha : Text.isDigit a <;> simp [shortRuns, ha]
  · cases ha : Text.isDigit a <;> cases hb : Text.isDigit b <;> simp [shortRuns, ha, hb]

/-- A way to take degrees off the front takes digits, at least one, and leaves at most four of
their row. -/
theorem mem_longRuns :
    (ds, rest) ∈ longRuns cs ↔ ds ≠ [] ∧ IsDigits ds ∧ cs = ds ++ rest ∧ runLength rest ≤ 4 := by
  have hsplit : cs.takeWhile Text.isDigit ++ cs.dropWhile Text.isDigit = cs :=
    List.takeWhile_append_dropWhile
  have hrun : IsDigits (cs.takeWhile Text.isDigit) := List.all_eq_true.mp List.all_takeWhile
  have hbehind : runLength (cs.dropWhile Text.isDigit) = 0 := by
    have hsame := congrArg runLength hsplit
    rw [runLength_append hrun] at hsame
    exact Nat.add_eq_left.mp hsame
  rw [longRuns]
  constructor
  · intro h
    obtain ⟨held, hheld, heq⟩ := List.mem_map.mp h
    cases heq
    rw [List.mem_range] at hheld
    refine ⟨?_, fun c hc => hrun c (List.mem_of_mem_take hc), ?_, ?_⟩
    · intro hnil
      have hlen := congrArg List.length hnil
      rw [List.length_take, List.length_nil] at hlen
      omega
    · rw [← List.append_assoc, List.take_append_drop, hsplit]
    · rw [runLength_append fun c hc => hrun c (List.mem_of_mem_drop hc), hbehind, List.length_drop]
      omega
  · rintro ⟨hne, hds, rfl, hrest⟩
    have hpos := List.length_pos_iff.mpr hne
    refine List.mem_map.mpr ⟨runLength rest, ?_, ?_⟩
    · rw [List.mem_range, List.takeWhile_append_of_pos hds, List.length_append, ← runLength]
      omega
    · rw [List.takeWhile_append_of_pos hds, List.dropWhile_append_of_pos hds, List.length_append,
        ← runLength, Nat.add_sub_cancel, List.take_left, List.drop_left,
        List.takeWhile_append_dropWhile]

theorem falling_longRuns (cs : List Char) :
    (longRuns cs).Pairwise fun x y => y.1.length < x.1.length := by
  rw [longRuns, List.pairwise_map]
  refine List.pairwise_lt_range.imp_of_mem fun hheld hheld' hlt => ?_
  rw [List.mem_range] at hheld hheld'
  simp only [List.length_take]
  omega

/-! ## An angle at the front -/

/-- The digits of an angle: of degrees at least one, of minutes and seconds one or two each. -/
structure IsWritten (a : Dms) : Prop where
  someDegrees : a.degrees ≠ []
  degrees : IsDigits a.degrees
  minutes : IsShort a.minutes
  seconds : IsShort a.seconds

/-- The characters after a mark that may be there, and after spaces. -/
def afterGap (mark : Char) (cs : List Char) : List Char := dropSpaces (dropMark mark cs)

/-- An angle stands at the front of some characters, and behind it there are others. -/
def Leads (a : Dms) (cs rest : List Char) : Prop :=
  a.IsWritten ∧ ∃ c₁ c₂ c₃, cs = a.degrees ++ c₁ ∧ afterGap '°' c₁ = a.minutes ++ c₂ ∧
    afterGap '\x27' c₂ = a.seconds ++ c₃ ∧ afterGap '\x22' c₃ = rest

/-- An angle takes at least as many digits as another, compared from the front: of degrees, then of
minutes, then of seconds. -/
def Outreaches (a a' : Dms) : Prop :=
  a'.degrees.length < a.degrees.length ∨ a'.degrees.length = a.degrees.length ∧
    (a'.minutes.length < a.minutes.length ∨ a'.minutes.length = a.minutes.length ∧
      a'.seconds.length ≤ a.seconds.length)

/-- Of the angles at the front behind which something can be made of the rest, this one counts. -/
def Counts {β : Type} (finish : List Char → Option β) (cs : List Char) (a : Dms) (b : β) : Prop :=
  (∃ rest, a.Leads cs rest ∧ finish rest = some b) ∧
    ∀ a' rest', a'.Leads cs rest' → (finish rest').isSome → a.Outreaches a'

variable {a a' : Dms} {rest' : List Char}

/-- Angles of the same lengths at the front are the same. -/
theorem Leads.eq_of_outreaches (h : a.Leads cs rest) (h' : a'.Leads cs rest')
    (hle : a.Outreaches a') (hge : a'.Outreaches a) : a = a' ∧ rest = rest' := by
  obtain ⟨-, c₁, c₂, c₃, hcs, hc₁, hc₂, rfl⟩ := h
  obtain ⟨-, c₁', c₂', c₃', hcs', hc₁', hc₂', rfl⟩ := h'
  unfold Outreaches at hle hge
  obtain ⟨hd, rfl⟩ := List.append_inj (hcs.symm.trans hcs') (by omega)
  obtain ⟨hm, rfl⟩ := List.append_inj (hc₁.symm.trans hc₁') (by omega)
  obtain ⟨hs, rfl⟩ := List.append_inj (hc₂.symm.trans hc₂') (by omega)
  exact ⟨by cases a; cases a'; simp_all only, rfl⟩

/-- Nothing stands between two digits of a row. -/
theorem afterGap_of_runLength {mark : Char} (hmark : Text.isDigit mark = false)
    (h : 0 < runLength cs) : afterGap mark cs = cs := by
  obtain ⟨c, cs, rfl, hc⟩ := exists_cons_of_runLength h
  have hspace : (c == ' ') = false := by
    rw [beq_eq_false_iff_ne]
    rintro rfl
    exact absurd hc (by decide)
  have hne : (c == mark) = false := by
    rw [beq_eq_false_iff_ne]
    rintro rfl
    rw [hmark] at hc
    cases hc
  rw [afterGap, dropMark, hne, if_neg Bool.false_ne_true, dropSpaces, List.dropWhile_cons, hspace,
    if_neg Bool.false_ne_true]

/-- Where the rest of an angle does not begin with a digit, its degrees leave no more of their row
over than minutes and seconds can take. -/
theorem Leads.runLength_le {c₁ : List Char} (h : a.Leads cs rest) (hcs : cs = a.degrees ++ c₁)
    (hrest : runLength rest = 0) : runLength c₁ ≤ 4 := by
  obtain ⟨hw, c₁', c₂, c₃, hcs', hc₁, hc₂, rfl⟩ := h
  obtain rfl := List.append_cancel_left (hcs.symm.trans hcs')
  have hm := hw.minutes.1
  have hs := hw.seconds.1
  by_contra hlong
  rw [afterGap_of_runLength (by decide) (by omega)] at hc₁
  have hrun := congrArg runLength hc₁
  rw [runLength_append hw.minutes.2] at hrun
  rw [afterGap_of_runLength (by decide) (by omega)] at hc₂
  have hrun' := congrArg runLength hc₂
  rw [runLength_append hw.seconds.2] at hrun'
  rw [afterGap_of_runLength (by decide) (by omega)] at hrest
  omega

/-! ## Reading -/

section Finish

variable {β : Type} {finish : List Char → Option β} {b : β}

/-- Seconds behind a gap, and what is made of the rest. -/
def secondsThen (finish : List Char → Option β) (degrees minutes cs : List Char) :
    Option (Dms × β) :=
  (shortRuns (afterGap '\x27' cs)).findSome? fun s =>
    (finish (afterGap '\x22' s.2)).map fun b => (⟨degrees, minutes, s.1⟩, b)

/-- Minutes and seconds behind gaps, and what is made of the rest. -/
def minutesThen (finish : List Char → Option β) (degrees cs : List Char) : Option (Dms × β) :=
  (shortRuns (afterGap '°' cs)).findSome? fun m => secondsThen finish degrees m.1 m.2

theorem readThen_eq (finish : List Char → Option β) (cs : List Char) :
    readThen finish cs = (longRuns cs).findSome? fun d => minutesThen finish d.1 d.2 := rfl

section Some

variable {c₁ c₂ c₃ : List Char}

/-- Seconds are read where some are there, and something can be made of the rest. -/
theorem isSome_secondsThen (hw : a.IsWritten) (hc₂ : afterGap '\x27' c₂ = a.seconds ++ c₃)
    (hf : (finish (afterGap '\x22' c₃)).isSome) (degrees minutes : List Char) :
    (secondsThen finish degrees minutes c₂).isSome :=
  List.findSome?_isSome_iff.mpr
    ⟨(a.seconds, c₃), mem_shortRuns.mpr ⟨hw.seconds, hc₂⟩, by rwa [Option.isSome_map]⟩

theorem isSome_minutesThen (hw : a.IsWritten) (hc₁ : afterGap '°' c₁ = a.minutes ++ c₂)
    (hc₂ : afterGap '\x27' c₂ = a.seconds ++ c₃) (hf : (finish (afterGap '\x22' c₃)).isSome)
    (degrees : List Char) : (minutesThen finish degrees c₁).isSome :=
  List.findSome?_isSome_iff.mpr
    ⟨(a.minutes, c₂), mem_shortRuns.mpr ⟨hw.minutes, hc₁⟩,
      isSome_secondsThen hw hc₂ hf degrees a.minutes⟩

end Some

variable (hfin : ∀ cs, 0 < runLength cs → finish cs = none)

include hfin

theorem runLength_eq_zero (hf : (finish rest).isSome) : runLength rest = 0 := by
  by_contra hpos
  rw [hfin rest (Nat.pos_of_ne_zero hpos)] at hf
  cases hf

/-- Degrees that are followed by the rest of an angle are among those that are tried. -/
theorem Leads.mem_longRuns {c₁ : List Char} (h : a.Leads cs rest) (hcs : cs = a.degrees ++ c₁)
    (hf : (finish rest).isSome) : (a.degrees, c₁) ∈ longRuns cs :=
  Dms.mem_longRuns.mpr
    ⟨h.1.someDegrees, h.1.degrees, hcs, h.runLength_le hcs (runLength_eq_zero hfin hf)⟩

/-- Where an angle stands at the front, one is read. -/
theorem isSome_readThen (h : a.Leads cs rest) (hf : (finish rest).isSome) :
    (readThen finish cs).isSome := by
  have hlead := h
  obtain ⟨hw, c₁, c₂, c₃, hcs, hc₁, hc₂, rfl⟩ := h
  exact List.findSome?_isSome_iff.mpr ⟨(a.degrees, c₁), hlead.mem_longRuns hfin hcs hf,
    isSome_minutesThen hw hc₁ hc₂ hf a.degrees⟩

/-- What is read is an angle at the front, and no other takes more digits. -/
theorem counts_of_readThen (h : readThen finish cs = some (a, b)) : Counts finish cs a b := by
  rw [readThen_eq] at h
  obtain ⟨⟨ds, c₁⟩, hd, h, hdmax⟩ := exists_of_findSome?_falling (falling_longRuns cs) h
  obtain ⟨⟨ms, c₂⟩, hm, h, hmmax⟩ := exists_of_findSome?_falling (falling_shortRuns _) h
  obtain ⟨⟨ss, c₃⟩, hs, h, hsmax⟩ := exists_of_findSome?_falling (falling_shortRuns _) h
  obtain ⟨b', hb, heq⟩ := Option.map_eq_some_iff.mp h
  cases heq
  obtain ⟨hdne, hdd, hcs, -⟩ := Dms.mem_longRuns.mp hd
  obtain ⟨hms, hc₁⟩ := mem_shortRuns.mp hm
  obtain ⟨hss, hc₂⟩ := mem_shortRuns.mp hs
  refine ⟨⟨_, ⟨⟨hdne, hdd, hms, hss⟩, c₁, c₂, c₃, hcs, hc₁, hc₂, rfl⟩, hb⟩, ?_⟩
  intro a' rest' hlead hf
  have hlead' := hlead
  obtain ⟨hw, c₁', c₂', c₃', hcs', hc₁', hc₂', rfl⟩ := hlead
  -- of two angles that differ in a part, the way that takes more of it is tried first
  have hled : a'.degrees.length ≤ ds.length :=
    hdmax (a'.degrees, c₁') (hlead'.mem_longRuns hfin hcs' hf)
      (isSome_minutesThen hw hc₁' hc₂' hf a'.degrees)
  rcases Nat.lt_or_eq_of_le hled with hlt | heq
  · exact .inl hlt
  obtain ⟨rfl, rfl⟩ := List.append_inj (hcs'.symm.trans hcs) heq
  have hlem : a'.minutes.length ≤ ms.length :=
    hmmax (a'.minutes, c₂') (mem_shortRuns.mpr ⟨hw.minutes, hc₁'⟩)
      (isSome_secondsThen hw hc₂' hf a'.degrees a'.minutes)
  rcases Nat.lt_or_eq_of_le hlem with hlt | heq
  · exact .inr ⟨rfl, .inl hlt⟩
  obtain ⟨rfl, rfl⟩ := List.append_inj (hc₁'.symm.trans hc₁) heq
  have hles : a'.seconds.length ≤ ss.length :=
    hsmax (a'.seconds, c₃') (mem_shortRuns.mpr ⟨hw.seconds, hc₂'⟩) (by rwa [Option.isSome_map])
  exact .inr ⟨rfl, .inr ⟨rfl, hles⟩⟩

/-- **The reading that counts is the one that is found**: of the angles at the front behind which
something can be made of the rest, the one with the most digits, compared from the front. -/
theorem readThen_eq_some_iff : readThen finish cs = some (a, b) ↔ Counts finish cs a b := by
  refine ⟨counts_of_readThen hfin, fun h => ?_⟩
  obtain ⟨⟨rest, hlead, hb⟩, hmax⟩ := h
  have hf : (finish rest).isSome := by rw [hb]; rfl
  obtain ⟨⟨a', b'⟩, hread⟩ := Option.isSome_iff_exists.mp (isSome_readThen hfin hlead hf)
  obtain ⟨⟨rest', hlead', hb'⟩, hmax'⟩ := counts_of_readThen hfin hread
  have hf' : (finish rest').isSome := by rw [hb']; rfl
  obtain ⟨rfl, rfl⟩ :=
    hlead.eq_of_outreaches hlead' (hmax a' rest' hlead' hf') (hmax' a rest hlead hf)
  rw [hb] at hb'
  cases hb'
  exact hread

/-- None is found where nothing can be made of what is behind an angle. -/
theorem readThen_eq_none_iff :
    readThen finish cs = none ↔ ∀ (a : Dms) (rest : List Char), a.Leads cs rest →
      finish rest = none := by
  constructor
  · intro h a rest hlead
    by_contra hne
    have hsome := isSome_readThen hfin hlead (Option.isSome_iff_ne_none.mpr hne)
    rw [h] at hsome
    cases hsome
  · intro h
    rw [Option.eq_none_iff_forall_ne_some]
    rintro ⟨a, b⟩ hread
    obtain ⟨⟨rest, hlead, hb⟩, -⟩ := counts_of_readThen hfin hread
    rw [h a rest hlead] at hb
    cases hb

end Finish

end Dms

end MetesBounds
