import MetesBounds.Proofs.Decimal.Plain
import MetesBounds.Proofs.Text.Joined
import Mathlib.Data.List.DropRight

/-!
# `Text/Rejoined` — what has been cut is a text of pieces again

Joining the pieces of a text gives the text back, and no piece holds the separator. So every text is
a row of pieces, and pieces of a text that are joined in another order are found again as well.
White space at the ends of a text is white space at the ends of its first and its last piece, as
long as there is none in the separator.

Main statements: `Text.intercalate_pieces` and `Text.map_trim_pieces_trim`.
-/

set_option autoImplicit false

namespace MetesBounds.Text

section Pieces

variable {s : Char} {sep : List Char}

theorem piecesFrom_nil (begun : List Char) : piecesFrom s sep begun [] = [begun.reverse] := by
  rw [piecesFrom]
  rfl

theorem piecesFrom_ne_nil (begun cs : List Char) : piecesFrom s sep begun cs ≠ [] := by
  induction begun, cs using piecesFrom.induct s sep with
  | case1 begun cs rest hcut ih => rw [piecesFrom_of_after? hcut]; exact List.cons_ne_nil _ _
  | case2 begun hcut => rw [piecesFrom_nil]; exact List.cons_ne_nil _ _
  | case3 begun c rest hcut ih => rw [piecesFrom_cons hcut]; exact ih

/-- Joining pieces gives back what they were cut from. -/
theorem intercalate_piecesFrom (begun cs : List Char) :
    (s :: sep).intercalate (piecesFrom s sep begun cs) = begun.reverse ++ cs := by
  induction begun, cs using piecesFrom.induct s sep with
  | case1 begun cs rest hcut ih =>
    rw [piecesFrom_of_after? hcut, List.intercalate_cons_of_ne_nil (piecesFrom_ne_nil _ _), ih,
      after?_eq_some_iff.mp hcut]
    simp
  | case2 begun hcut =>
    rw [piecesFrom_nil, List.intercalate_singleton, List.append_nil]
  | case3 begun c rest hcut ih =>
    rw [piecesFrom_cons hcut, ih, List.reverse_cons, List.append_assoc, List.singleton_append]

/-- No piece holds the separator, where none begins in what has been begun. -/
theorem not_infix_of_mem_piecesFrom (begun cs : List Char)
    (h : ∀ front back, begun.reverse = front ++ back → back ≠ [] →
      after? (s :: sep) (back ++ cs) = none) :
    ∀ piece ∈ piecesFrom s sep begun cs, ¬s :: sep <:+: piece := by
  -- a separator in what has been begun would begin there
  have hbegun (begun cs : List Char) (h : ∀ front back, begun.reverse = front ++ back → back ≠ [] →
      after? (s :: sep) (back ++ cs) = none) : ¬s :: sep <:+: begun.reverse := by
    rintro ⟨front, rest, hin⟩
    have hnone := h front (s :: sep ++ rest) (by rw [← hin, List.append_assoc]) (by simp)
    rw [List.append_assoc, after?_eq_some_iff.mpr rfl] at hnone
    cases hnone
  induction begun, cs using piecesFrom.induct s sep with
  | case1 begun cs rest hcut ih =>
    rw [piecesFrom_of_after? hcut]
    intro piece hpiece
    rcases List.mem_cons.mp hpiece with rfl | hpiece
    · exact hbegun begun cs h
    · refine ih ?_ piece hpiece
      intro front back hnil hback
      exact absurd (List.append_eq_nil_iff.mp hnil.symm).2 hback
  | case2 begun hcut =>
    rw [piecesFrom_nil]
    intro piece hpiece
    rw [List.mem_singleton.mp hpiece]
    exact hbegun begun [] h
  | case3 begun c rest hcut ih =>
    rw [piecesFrom_cons hcut]
    refine ih ?_
    intro front back hsplit hback
    obtain ⟨init, last, rfl⟩ := (List.eq_nil_or_concat back).resolve_left hback
    rw [List.reverse_cons, List.concat_eq_append, ← List.append_assoc, List.append_singleton_inj]
      at hsplit
    obtain ⟨hfront, rfl⟩ := hsplit
    rw [List.concat_eq_append, List.append_assoc, List.singleton_append]
    by_cases hinit : init = []
    · rw [hinit, List.nil_append]
      exact hcut
    · exact h front init hfront hinit

/-- **Joining the pieces of some characters gives these back.** -/
theorem intercalate_cut (sep cs : List Char) : sep.intercalate (cut sep cs) = cs := by
  cases sep with
  | nil => exact List.intercalate_singleton
  | cons s sep => exact intercalate_piecesFrom [] cs

theorem cut_ne_nil (sep cs : List Char) : cut sep cs ≠ [] := by
  cases sep with
  | nil => exact List.cons_ne_nil _ _
  | cons s sep => exact piecesFrom_ne_nil [] cs

/-- No piece holds the separator. -/
theorem not_infix_of_mem_cut {sep : List Char} (hsep : sep ≠ []) {cs piece : List Char}
    (h : piece ∈ cut sep cs) : ¬sep <:+: piece := by
  obtain ⟨s, sep, rfl⟩ := List.exists_cons_of_ne_nil hsep
  refine not_infix_of_mem_piecesFrom [] cs ?_ piece h
  intro front back hnil hback
  exact absurd (List.append_eq_nil_iff.mp hnil.symm).2 hback

end Pieces

/-! ## White space at the ends -/

section Blank

variable {p : Char → Bool} {sep : List Char}

theorem trimBoth_dropWhile (cs : List Char) : trimBoth p (cs.dropWhile p) = trimBoth p cs := by
  rw [trimBoth, List.dropWhile_idempotent, trimBoth]

theorem trimBoth_append_of_all {back : List Char} (h : ∀ c ∈ back, p c = true) (cs : List Char) :
    trimBoth p (cs ++ back) = trimBoth p cs := by
  have hback : back.dropWhile p = [] := List.dropWhile_eq_nil_iff.mpr h
  unfold trimBoth
  rw [List.dropWhile_append]
  split
  · next hnil => rw [hback, List.isEmpty_iff.mp hnil]
  · rw [List.reverse_append,
      List.dropWhile_append_of_pos fun c hc => h c (List.mem_reverse.mp hc)]

/-- Dropping characters at the end first makes no difference. -/
theorem trimBoth_rdropWhile (cs : List Char) : trimBoth p (cs.rdropWhile p) = trimBoth p cs := by
  have hsplit : cs = cs.rdropWhile p ++ cs.rtakeWhile p := by
    rw [List.rdropWhile, List.rtakeWhile, ← List.reverse_append, List.takeWhile_append_dropWhile,
      List.reverse_reverse]
  have hall : ∀ c ∈ cs.rtakeWhile p, p c = true := fun c hc => List.mem_rtakeWhile_imp hc
  conv_rhs => rw [hsplit]
  exact (trimBoth_append_of_all hall _).symm

variable (hsep : sep ≠ []) (hp : ∀ c ∈ sep, p c = false)

include hsep hp

theorem rdropWhile_intercalate (cells : List (List Char)) (last : List Char) :
    (sep.intercalate (cells ++ [last])).rdropWhile p =
      sep.intercalate (cells ++ [last.rdropWhile p]) := by
  induction cells with
  | nil => rw [List.nil_append, List.nil_append, List.intercalate_singleton, List.intercalate_singleton]
  | cons cell cells ih =>
    have hstop : (sep.reverse ++ cell.reverse).dropWhile p = sep.reverse ++ cell.reverse := by
      obtain ⟨c, cs, hcons⟩ := List.exists_cons_of_ne_nil (List.reverse_ne_nil_iff.mpr hsep)
      have hc : p c = false := hp c (List.mem_reverse.mp (hcons ▸ List.mem_cons_self))
      rw [hcons, List.cons_append, List.dropWhile_cons_of_neg (by rw [hc]; exact Bool.false_ne_true)]
    rw [List.cons_append, List.cons_append, List.intercalate_cons_of_ne_nil (by simp),
      List.intercalate_cons_of_ne_nil (by simp), ← ih, List.rdropWhile, List.reverse_append,
      List.reverse_append, dropWhile_append_of_eq hstop, List.reverse_append, List.rdropWhile]
    simp

/-- What is joined has white space at its ends where its first and its last piece have. -/
theorem exists_trimBoth_intercalate {cells : List (List Char)} (hne : cells ≠ []) :
    ∃ cells', trimBoth p (sep.intercalate cells) = sep.intercalate cells' ∧
      cells'.map (trimBoth p) = cells.map (trimBoth p) ∧ cells' ≠ [] ∧
      ∀ cell' ∈ cells', ∃ cell ∈ cells, cell' <:+: cell := by
  have hfront (cs : List Char) : cs.dropWhile p <:+: cs := (List.dropWhile_suffix p).isInfix
  have hback (cs : List Char) : cs.rdropWhile p <:+: cs := (List.rdropWhile_prefix p cs).isInfix
  obtain ⟨cell, rest, rfl⟩ := List.exists_cons_of_ne_nil hne
  rcases List.eq_nil_or_concat rest with rfl | ⟨init, last, rfl⟩
  · refine ⟨[trimBoth p cell], ?_, ?_, List.cons_ne_nil _ _, ?_⟩
    · rw [List.intercalate_singleton, List.intercalate_singleton]
    · have htwice : trimBoth p (trimBoth p cell) = trimBoth p cell := by
        rw [← trimBoth_dropWhile cell]
        exact (trimBoth_rdropWhile _).trans (trimBoth_dropWhile _)
      rw [List.map_singleton, htwice, List.map_singleton]
    · intro cell' hcell'
      rw [List.mem_singleton.mp hcell']
      exact ⟨cell, List.mem_cons_self, (hback _).trans (hfront cell)⟩
  · rw [List.concat_eq_append]
    refine ⟨cell.dropWhile p :: (init ++ [last.rdropWhile p]), ?_, ?_, List.cons_ne_nil _ _, ?_⟩
    · rw [List.intercalate_cons_of_ne_nil (by simp), List.intercalate_cons_of_ne_nil (by simp),
        trimBoth_around hsep hp, ← rdropWhile_intercalate hsep hp, List.rdropWhile]
    · simp only [List.map_cons, List.map_append, List.map_nil, trimBoth_dropWhile,
        trimBoth_rdropWhile]
    · intro cell' hcell'
      rw [List.mem_cons, List.mem_append, List.mem_singleton] at hcell'
      rcases hcell' with rfl | hcell' | rfl
      · exact ⟨cell, List.mem_cons_self, hfront cell⟩
      · exact ⟨cell', List.mem_cons_of_mem _ (List.mem_append_left _ hcell'), List.infix_rfl⟩
      · exact ⟨last, List.mem_cons_of_mem _ (List.mem_append_right _ List.mem_cons_self), hback last⟩

end Blank

/-! ## Texts -/

section Texts

variable {sep : String} (hsep : IsOne sep) (hb : ∀ c ∈ sep.toList, isBlank c = false)

include hsep

theorem IsOne.ne_nil : sep.toList ≠ [] := by
  obtain ⟨c, cs, hcons, -⟩ := hsep.cons
  rw [hcons]
  exact List.cons_ne_nil c cs

/-- The pieces of a text hold no separator. -/
theorem not_infix_of_mem_pieces {text piece : String} (h : piece ∈ pieces sep text) :
    ¬sep.toList <:+: piece.toList := by
  obtain ⟨cs, hcs, rfl⟩ := List.mem_map.mp h
  rw [String.toList_ofList]
  exact not_infix_of_mem_cut hsep.ne_nil hcs

omit hsep in
theorem pieces_ne_nil (sep text : String) : pieces sep text ≠ [] :=
  fun h => cut_ne_nil _ _ (List.map_eq_nil_iff.mp h)

omit hsep in
/-- **Joining the pieces of a text gives it back.** -/
theorem intercalate_pieces (sep text : String) : sep.intercalate (pieces sep text) = text := by
  rw [← String.toList_inj, String.toList_intercalate, pieces, List.map_map]
  have hid : String.toList ∘ String.ofList = id := funext fun _ => String.toList_ofList
  rw [hid, List.map_id, intercalate_cut]

include hb

/-- **Pieces that are joined are found again**, but for white space at their ends: it makes no
difference whether there is any at the ends of the text. -/
theorem map_trim_pieces_trim {cells : List String} (hne : cells ≠ [])
    (hin : ∀ cell ∈ cells, ¬sep.toList <:+: cell.toList) :
    (pieces sep (trim (sep.intercalate cells))).map trim = cells.map trim := by
  have hlists : cells.map String.toList ≠ [] := fun h => hne (List.map_eq_nil_iff.mp h)
  obtain ⟨cells', htrim, hmap, hne', hinfix⟩ := exists_trimBoth_intercalate hsep.ne_nil hb hlists
  obtain ⟨c, cs, hcons, hc⟩ := hsep.cons
  have hin' : ∀ cell' ∈ cells', ¬c :: cs <:+: cell' := by
    intro cell' hcell' hsub
    obtain ⟨cell, hcell, hcell''⟩ := hinfix cell' hcell'
    obtain ⟨s, hs, rfl⟩ := List.mem_map.mp hcell
    exact hin s hs (hcons ▸ hsub.trans hcell'')
  have hpieces : pieces sep (trim (sep.intercalate cells)) = cells'.map String.ofList := by
    rw [trim, String.toList_intercalate, htrim, pieces, String.toList_ofList, hcons,
      cut_intercalate hc hne' hin']
  have hofList : trim ∘ String.ofList = String.ofList ∘ trimBoth isBlank :=
    funext fun cs => by rw [Function.comp_apply, trim, String.toList_ofList, Function.comp_apply]
  have htoList : (String.ofList ∘ trimBoth isBlank) ∘ String.toList = trim := rfl
  rw [hpieces, List.map_map, hofList, ← List.map_map, hmap, List.map_map, List.map_map, htoList]

end Texts

end MetesBounds.Text
