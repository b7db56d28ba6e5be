import MetesBounds.Text.Blank
import MetesBounds.Text.Lines
import MetesBounds.Text.Pieces
import MetesBounds.Text.Surrogate

/-!
# `Text/Joined` — what has been joined is found again

Lines are found again in a text where they are joined by line feeds and hold no end of line
themselves, and pieces where they are joined by a separator that none of them holds. The latter is
not so of every separator: where it begins anew inside of itself, the end of a piece and the
separator behind it may make one too early. A separator of one character never does, nor does one
that is half a character and held as four.

Main statements: `Text.lines_intercalate` and `Text.pieces_intercalate`.
-/

set_option autoImplicit false

namespace MetesBounds.Text

/-! ## White space at the ends -/

section Trim

variable {p : Char → Bool} {cs ds : List Char}

/-- Neither the first nor the last of some characters is of a class. -/
structure Tight (p : Char → Bool) (cs : List Char) : Prop where
  first : ∀ c, cs.head? = some c → p c = false
  last : ∀ c, cs.getLast? = some c → p c = false

theorem dropWhile_eq_self_iff : cs.dropWhile p = cs ↔ ∀ c, cs.head? = some c → p c = false := by
  constructor
  · intro h c hc
    have hnot := List.head?_dropWhile_not p cs
    rw [h, hc] at hnot
    exact hnot
  · intro h
    cases cs with
    | nil => rfl
    | cons c cs =>
      have hc : ¬p c = true := by rw [h c rfl]; exact Bool.false_ne_true
      exact List.dropWhile_cons_of_neg hc

theorem trimBoth_eq_self_iff : trimBoth p cs = cs ↔ Tight p cs := by
  constructor
  · intro h
    have hfront : cs.dropWhile p <:+ cs := List.dropWhile_suffix p
    have hback : (cs.dropWhile p).reverse.dropWhile p <:+ (cs.dropWhile p).reverse :=
      List.dropWhile_suffix p
    have hlength := congrArg List.length h.symm
    rw [trimBoth, List.length_reverse] at hlength
    have hle := hback.length_le
    rw [List.length_reverse] at hle
    -- what is dropped has no characters, at either end
    have hfront : cs.dropWhile p = cs :=
      hfront.eq_of_length_le (Nat.le_trans (Nat.le_of_eq hlength) hle)
    rw [hfront] at hback hlength
    have hback : cs.reverse.dropWhile p = cs.reverse :=
      hback.eq_of_length_le (by rw [List.length_reverse]; exact Nat.le_of_eq hlength)
    refine ⟨dropWhile_eq_self_iff.mp hfront, fun c hc => ?_⟩
    exact dropWhile_eq_self_iff.mp hback c (by rw [List.head?_reverse]; exact hc)
  · rintro ⟨hfirst, hlast⟩
    have hback : cs.reverse.dropWhile p = cs.reverse :=
      dropWhile_eq_self_iff.mpr fun c hc => hlast c (by rw [← List.head?_reverse]; exact hc)
    rw [trimBoth, dropWhile_eq_self_iff.mpr hfirst, hback, List.reverse_reverse]

theorem trim_eq_self_iff {s : String} : trim s = s ↔ Tight isBlank s.toList := by
  rw [← trimBoth_eq_self_iff, trim, ← String.toList_inj, String.toList_ofList]

theorem getLast?_append_right (cs : List Char) (h : ds ≠ []) :
    (cs ++ ds).getLast? = ds.getLast? := by
  rw [List.getLast?_append, List.getLast?_eq_some_getLast h, Option.some_or]

/-- Pieces that have something in front of them end as the last of them does, or where that is
empty as the separator does. -/
theorem last_append_intercalate {sep : List Char} {cells : List (List Char)} (hsep : sep ≠ [])
    (hne : cells ≠ []) (ht : ∀ cell ∈ cells, Tight p cell)
    (hlast : (∀ c ∈ sep, p c = false) ∨ cells.getLast? ≠ some []) (c : Char)
    (hc : (sep ++ sep.intercalate cells).getLast? = some c) : p c = false := by
  induction cells with
  | nil => exact absurd rfl hne
  | cons cell rest ih =>
    rw [List.forall_mem_cons] at ht
    cases rest with
    | nil =>
      rw [List.intercalate_singleton] at hc
      cases cell with
      | nil =>
        rcases hlast with hlast | hlast
        · rw [List.append_nil] at hc
          exact hlast c (List.mem_of_getLast? hc)
        · exact absurd rfl hlast
      | cons d cell =>
        rw [getLast?_append_right _ (List.cons_ne_nil d cell)] at hc
        exact ht.1.last c hc
    | cons cell' rest =>
      rw [List.intercalate_cons_cons, List.append_assoc, ← List.append_assoc,
        getLast?_append_right _ (List.append_ne_nil_of_left_ne_nil hsep _)] at hc
      rw [List.getLast?_cons_cons] at hlast
      exact ih (List.cons_ne_nil _ _) ht.2 hlast hc

/-- Pieces begin as the first of them does, and end as the last of them or the separator. -/
theorem tight_intercalate {sep cell : List Char} {rest : List (List Char)} (hsep : sep ≠ [])
    (hcell : cell ≠ []) (ht : ∀ cell' ∈ cell :: rest, Tight p cell')
    (hlast : (∀ c ∈ sep, p c = false) ∨ (cell :: rest).getLast? ≠ some []) :
    Tight p (sep.intercalate (cell :: rest)) := by
  cases rest with
  | nil =>
    rw [List.intercalate_singleton]
    exact ht cell List.mem_cons_self
  | cons cell' rest =>
    rw [List.intercalate_cons_cons, List.append_assoc]
    rw [List.getLast?_cons_cons] at hlast
    constructor
    · intro c hc
      obtain ⟨d, cell, rfl⟩ := List.exists_cons_of_ne_nil hcell
      exact (ht _ List.mem_cons_self).first c hc
    · intro c hc
      rw [getLast?_append_right _ (List.append_ne_nil_of_left_ne_nil hsep _)] at hc
      exact last_append_intercalate hsep (List.cons_ne_nil _ _)
        (fun d hd => ht d (List.mem_cons_of_mem cell hd)) hlast c hc

end Trim

/-! ## Lines -/

/-- What is joined has no other characters than its pieces and what is between them. -/
theorem mem_intercalate {c : Char} {sep : List Char} {cells : List (List Char)}
    (h : c ∈ sep.intercalate cells) : c ∈ sep ∨ ∃ cell ∈ cells, c ∈ cell := by
  induction cells with
  | nil => cases h
  | cons cell rest ih =>
    cases rest with
    | nil =>
      rw [List.intercalate_singleton] at h
      exact .inr ⟨cell, List.mem_cons_self, h⟩
    | cons cell' rest =>
      rw [List.intercalate_cons_cons, List.mem_append, List.mem_append] at h
      rcases h with (h | h) | h
      · exact .inr ⟨cell, List.mem_cons_self, h⟩
      · exact .inl h
      · exact (ih h).imp_right fun ⟨cell, hcell, hc⟩ => ⟨cell, List.mem_cons_of_mem _ hcell, hc⟩

/-- Characters that end no line are taken into the current one. -/
theorem linesFrom_append {row : List Char} (h : ∀ c ∈ row, isLineBreak c = false)
    (begun rest : List Char) :
    linesFrom begun (row ++ rest) = linesFrom (row.reverse ++ begun) rest := by
  induction row generalizing begun with
  | nil => rfl
  | cons c row ih =>
    rw [List.forall_mem_cons] at h
    have hc : linesFrom begun (c :: (row ++ rest)) = linesFrom (c :: begun) (row ++ rest) := by
      rw [linesFrom.eq_3, h.1, if_neg Bool.false_ne_true]
      rintro rest' rfl -
      exact absurd h.1 (by decide)
    rw [List.cons_append, hc, ih h.2, List.reverse_cons, List.append_assoc]
    rfl

theorem linesFrom_intercalate {rows : List (List Char)}
    (h : ∀ row ∈ rows, row ≠ [] ∧ ∀ c ∈ row, isLineBreak c = false) :
    linesFrom [] (['\n'].intercalate rows) = rows := by
  induction rows with
  | nil => rfl
  | cons row rest ih =>
    rw [List.forall_mem_cons] at h
    obtain ⟨⟨hne, hrow⟩, hrest⟩ := h
    cases rest with
    | nil =>
      have hempty : row.reverse.isEmpty = false := by simp [hne]
      have hline := linesFrom_append hrow [] []
      rw [List.append_nil, List.append_nil] at hline
      rw [List.intercalate_singleton, hline, linesFrom, hempty, if_neg Bool.false_ne_true,
        List.reverse_reverse]
    | cons row' rest =>
      have hfeed : ∀ begun cs, linesFrom begun ('\n' :: cs) = begun.reverse :: linesFrom [] cs := by
        intro begun cs
        rw [linesFrom.eq_3 _ _ _ fun _ h _ => absurd h (by decide)]
        rfl
      rw [List.intercalate_cons_cons, List.append_assoc, linesFrom_append hrow, List.singleton_append,
        hfeed, ih hrest, List.append_nil, List.reverse_reverse]

/-- **Lines that are joined by line feeds are found again.** -/
theorem lines_intercalate {rows : List String}
    (h : ∀ row ∈ rows, row ≠ "" ∧ ∀ c ∈ row.toList, isLineBreak c = false) :
    lines ("\n".intercalate rows) = rows := by
  have hrows : ∀ row ∈ rows.map String.toList, row ≠ [] ∧ ∀ c ∈ row, isLineBreak c = false := by
    intro row hrow
    obtain ⟨s, hs, rfl⟩ := List.mem_map.mp hrow
    exact ⟨fun hempty => (h s hs).1 (String.toList_eq_nil_iff.mp hempty), (h s hs).2⟩
  have hfeed : "\n".toList = ['\n'] := rfl
  rw [lines, String.toList_intercalate, hfeed, linesFrom_intercalate hrows, List.map_map]
  exact (List.map_congr_left fun s _ => String.ofList_toList).trans (List.map_id rows)

/-! ## Pieces -/

/-- A text that holds one code: a character, or half of one. -/
def IsOne (s : String) : Prop := ∃ n < 0x110000, s.toList = heldAs n

/-- What holds one code does not begin anew inside of itself. -/
theorem IsOne.cons {s : String} (h : IsOne s) : ∃ c cs, s.toList = c :: cs ∧ c ∉ cs := by
  obtain ⟨n, -, hn⟩ := h
  rw [hn, heldAs]
  split
  · next held =>
    refine ⟨_, _, rfl, ?_⟩
    -- the mark is none of the digits
    have hmark : (Char.ofNat heldMark).toNat = 0xFDE0 := toNat_ofNat (by decide)
    have hdigit : ∀ d < 16, Char.ofNat heldMark ≠ Char.ofNat (heldZero + d) := by
      intro d hd heq
      have hvalid : (heldZero + d).isValidChar := by unfold Nat.isValidChar heldZero; omega
      have hcodes := congrArg Char.toNat heq
      rw [hmark, toNat_ofNat hvalid] at hcodes
      unfold heldZero at hcodes
      omega
    have hsmall := (heldCode_heldNumber held).1
    simp only [List.map_cons, List.map_nil, List.mem_cons, List.not_mem_nil, or_false, not_or]
    exact ⟨hdigit _ (by omega), hdigit _ (by omega), hdigit _ (by omega)⟩
  · exact ⟨_, [], rfl, List.not_mem_nil⟩

section Pieces

variable {s : Char} {sep cell : List Char}

/-- Where a separator that does not begin anew inside of itself comes next but one, none comes
before. -/
theorem after?_eq_none (hs : s ∉ sep) {more : List Char} (hne : cell ≠ [])
    (hin : ¬s :: sep <:+: cell) : after? (s :: sep) (cell ++ s :: more) = none := by
  rw [Option.eq_none_iff_forall_ne_some]
  intro rest hrest
  rw [after?_eq_some_iff, List.append_eq_append_iff] at hrest
  rcases hrest with ⟨left, hsep, hleft⟩ | ⟨left, hcell, -⟩
  · cases left with
    | nil =>
      rw [List.append_nil] at hsep
      exact hin (hsep ▸ List.infix_rfl)
    | cons c left =>
      cases hleft
      cases cell with
      | nil => exact hne rfl
      | cons d cell =>
        cases hsep
        exact hs (List.mem_append_right _ List.mem_cons_self)
  · exact hin (hcell ▸ List.infix_append_left)

theorem piecesFrom_of_after? {cs rest : List Char} (h : after? (s :: sep) cs = some rest)
    (begun : List Char) : piecesFrom s sep begun cs = begun.reverse :: piecesFrom s sep [] rest := by
  rw [piecesFrom]
  split
  · next rest' hrest =>
    rw [h] at hrest
    cases hrest
    rfl
  · next hnone =>
    rw [h] at hnone
    cases hnone

theorem piecesFrom_cons {c : Char} {cs : List Char} (h : after? (s :: sep) (c :: cs) = none)
    (begun : List Char) : piecesFrom s sep begun (c :: cs) = piecesFrom s sep (c :: begun) cs := by
  rw [piecesFrom]
  split
  · next rest hrest =>
    rw [h] at hrest
    cases hrest
  · rfl

/-- A piece goes as far as the separator behind it. -/
theorem piecesFrom_append (hs : s ∉ sep) (hin : ¬s :: sep <:+: cell) (begun more : List Char) :
    piecesFrom s sep begun (cell ++ s :: (sep ++ more)) =
      (begun.reverse ++ cell) :: piecesFrom s sep [] more := by
  induction cell generalizing begun with
  | nil =>
    have hafter : after? (s :: sep) (s :: (sep ++ more)) = some more := after?_eq_some_iff.mpr rfl
    rw [List.nil_append, piecesFrom_of_after? hafter, List.append_nil]
  | cons c cell ih =>
    have hnone : after? (s :: sep) (c :: cell ++ s :: (sep ++ more)) = none :=
      after?_eq_none hs (List.cons_ne_nil c cell) hin
    have htail : ¬s :: sep <:+: cell := fun h => hin (List.infix_cons h)
    rw [List.cons_append] at hnone ⊢
    rw [piecesFrom_cons hnone, ih htail, List.reverse_cons, List.append_assoc]
    rfl

/-- The last piece goes as far as the text. -/
theorem piecesFrom_eq_singleton (hin : ¬s :: sep <:+: cell) (begun : List Char) :
    piecesFrom s sep begun cell = [begun.reverse ++ cell] := by
  induction cell generalizing begun with
  | nil =>
    rw [piecesFrom, List.append_nil]
    rfl
  | cons c cell ih =>
    have hnone : after? (s :: sep) (c :: cell) = none := by
      rw [Option.eq_none_iff_forall_ne_some]
      intro rest hrest
      exact hin (after?_eq_some_iff.mp hrest ▸ List.infix_append_left)
    have htail : ¬s :: sep <:+: cell := fun h => hin (List.infix_cons h)
    rw [piecesFrom_cons hnone, ih htail, List.reverse_cons, List.append_assoc]
    rfl

theorem cut_intercalate (hs : s ∉ sep) {cells : List (List Char)} (hne : cells ≠ [])
    (hin : ∀ cell ∈ cells, ¬s :: sep <:+: cell) :
    cut (s :: sep) ((s :: sep).intercalate cells) = cells := by
  rw [cut]
  induction cells with
  | nil => exact absurd rfl hne
  | cons cell rest ih =>
    rw [List.forall_mem_cons] at hin
    cases rest with
    | nil => rw [List.intercalate_singleton, piecesFrom_eq_singleton hin.1]; rfl
    | cons cell' rest =>
      rw [List.intercalate_cons_cons, List.append_assoc, List.cons_append,
        piecesFrom_append hs hin.1, ih (List.cons_ne_nil _ _) hin.2]
      rfl

/-- **Pieces that are joined by one character are found again**, where none of them holds it. -/
theorem pieces_intercalate {sep : String} (hsep : IsOne sep) {cells : List String}
    (hne : cells ≠ []) (hin : ∀ cell ∈ cells, ¬sep.toList <:+: cell.toList) :
    pieces sep (sep.intercalate cells) = cells := by
  obtain ⟨c, cs, hcons, hc⟩ := hsep.cons
  have hcells : ∀ cell ∈ cells.map String.toList, ¬c :: cs <:+: cell := by
    intro cell hcell
    obtain ⟨s, hs, rfl⟩ := List.mem_map.mp hcell
    rw [← hcons]
    exact hin s hs
  rw [pieces, String.toList_intercalate, hcons,
    cut_intercalate hc (fun h => hne (List.map_eq_nil_iff.mp h)) hcells, List.map_map]
  exact (List.map_congr_left fun s _ => String.ofList_toList).trans (List.map_id cells)

end Pieces

end MetesBounds.Text
