import MetesBounds.Text.Lines

/-!
# `Text/Cut` — a text is cut between its lines

A text may be cut behind any of its lines, and what is before the cut has just the lines before it.
It may also go on there: whatever follows a line feed begins a line of its own, so the lines before
it are those of what is before. Nor does a line hold anything that ends one, so that lines may be put
together to another text.

Main statements: `Text.lines_firstLines`, `Text.lines_prefix_append` and
`Text.not_isLineBreak_of_mem_lines`.
-/

set_option autoImplicit false

namespace MetesBounds.Text

/-- Characters as far as the end of the first `n` lines. -/
def firstLinesFrom : Nat → List Char → List Char
  | 0, _ => []
  | _ + 1, [] => []
  | n + 1, '\r' :: '\n' :: rest => '\r' :: '\n' :: firstLinesFrom n rest
  | n + 1, c :: rest =>
    if isLineBreak c then c :: firstLinesFrom n rest else c :: firstLinesFrom (n + 1) rest

/-- A text as far as the end of its first `n` lines. -/
def firstLines (n : Nat) (s : String) : String := String.ofList (firstLinesFrom n s.toList)

theorem firstLinesFrom_prefix (n : Nat) (cs : List Char) : firstLinesFrom n cs <+: cs := by
  fun_induction firstLinesFrom n cs with
  | case1 cs => exact List.nil_prefix
  | case2 => exact List.nil_prefix
  | case3 n rest ih => exact (List.prefix_cons_inj _).mpr ((List.prefix_cons_inj _).mpr ih)
  | case4 n c rest _ _ ih => exact (List.prefix_cons_inj _).mpr ih
  | case5 n c rest _ _ ih => exact (List.prefix_cons_inj _).mpr ih

/-- The line that has been begun is the first of the lines that are kept. -/
theorem linesFrom_firstLinesFrom (n : Nat) (begun cs : List Char) :
    linesFrom begun (firstLinesFrom (n + 1) cs) = (linesFrom begun cs).take (n + 1) := by
  fun_induction linesFrom begun cs generalizing n with
  | case1 begun hempty => simp only [firstLinesFrom, linesFrom, hempty, if_true, List.take_nil]
  | case2 begun hempty =>
    rw [firstLinesFrom, linesFrom, if_neg hempty, List.take_succ_cons, List.take_nil]
  | case3 begun rest ih =>
    rw [firstLinesFrom, linesFrom, List.take_succ_cons]
    cases n with
    | zero => rw [firstLinesFrom, linesFrom]; rfl
    | succ n => rw [ih]
  | case4 begun c rest hpair hbreak ih =>
    -- what follows in the part that is kept is no line feed either
    have hkept : ∀ rest', c = '\r' → firstLinesFrom n rest = '\n' :: rest' → False := by
      intro rest' hc hrest
      obtain ⟨more, hmore⟩ := firstLinesFrom_prefix n rest
      rw [hrest] at hmore
      exact hpair _ hc hmore.symm
    rw [firstLinesFrom.eq_4 _ _ _ hpair, if_pos hbreak, linesFrom.eq_3 _ _ _ hkept, if_pos hbreak,
      List.take_succ_cons]
    cases n with
    | zero => rw [firstLinesFrom, linesFrom]; rfl
    | succ n => rw [ih]
  | case5 begun c rest hpair hbreak ih =>
    have hkept : ∀ rest', c = '\r' → firstLinesFrom (n + 1) rest = '\n' :: rest' → False := by
      intro rest' hc _
      exact hbreak (hc ▸ rfl)
    rw [firstLinesFrom.eq_4 _ _ _ hpair, if_neg hbreak, linesFrom.eq_3 _ _ _ hkept, if_neg hbreak,
      ih]

/-- **A text that is cut behind a line has just the lines before the cut.** -/
theorem lines_firstLines (n : Nat) (s : String) : lines (firstLines n s) = (lines s).take n := by
  rw [lines, firstLines, String.toList_ofList, lines, ← List.map_take]
  cases n with
  | zero => rw [firstLinesFrom, linesFrom]; rfl
  | succ n => rw [linesFrom_firstLinesFrom]

theorem linesFrom_prefix_append (begun cs more : List Char) :
    linesFrom begun cs <+: linesFrom begun (cs ++ '\n' :: more) := by
  have hfeed : ∀ begun, linesFrom begun ('\n' :: more) = begun.reverse :: linesFrom [] more := by
    intro begun
    rw [linesFrom.eq_3 _ _ _ fun _ h _ => absurd h (by decide)]
    rfl
  fun_induction linesFrom begun cs with
  | case1 => exact List.nil_prefix
  | case2 begun hempty =>
    rw [List.nil_append, hfeed]
    exact (List.prefix_cons_inj _).mpr List.nil_prefix
  | case3 begun rest ih => exact (List.prefix_cons_inj _).mpr ih
  | case4 begun c rest hpair hbreak ih =>
    cases rest with
    | cons d rest =>
      have hkept : ∀ rest', c = '\r' → d :: (rest ++ '\n' :: more) = '\n' :: rest' → False := by
        rintro rest' hc ⟨⟩
        exact hpair _ hc rfl
      rw [List.cons_append, List.cons_append, linesFrom.eq_3 _ _ _ hkept, if_pos hbreak]
      exact (List.prefix_cons_inj _).mpr ih
    | nil =>
      -- a carriage return at the end is joined by the line feed
      by_cases hc : c = '\r'
      · subst hc
        exact (List.prefix_cons_inj _).mpr List.nil_prefix
      · rw [List.cons_append, linesFrom.eq_3 _ _ _ fun _ h _ => absurd h hc, if_pos hbreak]
        exact (List.prefix_cons_inj _).mpr ih
  | case5 begun c rest hpair hbreak ih =>
    have hkept : ∀ rest', c = '\r' → rest ++ '\n' :: more = '\n' :: rest' → False := by
      intro rest' hc _
      exact hbreak (hc ▸ rfl)
    rw [List.cons_append, linesFrom.eq_3 _ _ _ hkept, if_neg hbreak]
    exact ih

/-- **A text that goes on behind a line feed begins with the lines before it.** -/
theorem lines_prefix_append (s more : String) : lines s <+: lines (s ++ "\n" ++ more) := by
  have hfeed : (s ++ "\n" ++ more).toList = s.toList ++ '\n' :: more.toList := by
    rw [String.toList_append, String.toList_append, List.append_assoc]
    rfl
  rw [lines, lines, hfeed]
  exact (linesFrom_prefix_append [] s.toList more.toList).map String.ofList

/-- **No line holds anything that ends a line.** -/
theorem not_isLineBreak_of_mem_lines {s line : String} (h : line ∈ lines s) :
    ∀ c ∈ line.toList, isLineBreak c = false := by
  have hfrom (begun cs : List Char) (hbegun : ∀ c ∈ begun, isLineBreak c = false) :
      ∀ row ∈ linesFrom begun cs, ∀ c ∈ row, isLineBreak c = false := by
    fun_induction linesFrom begun cs with
    | case1 => exact fun _ hrow => nomatch hrow
    | case2 begun =>
      rw [List.forall_mem_singleton]
      exact fun c hc => hbegun c (List.mem_reverse.mp hc)
    | case3 begun rest ih =>
      rw [List.forall_mem_cons]
      exact ⟨fun c hc => hbegun c (List.mem_reverse.mp hc), ih fun _ hc => nomatch hc⟩
    | case4 begun c rest _ _ ih =>
      rw [List.forall_mem_cons]
      exact ⟨fun c hc => hbegun c (List.mem_reverse.mp hc), ih fun _ hc => nomatch hc⟩
    | case5 begun c rest _ hbreak ih =>
      refine ih ?_
      rw [List.forall_mem_cons]
      exact ⟨Bool.eq_false_iff.mpr hbreak, hbegun⟩
  obtain ⟨row, hrow, rfl⟩ := List.mem_map.mp h
  rw [String.toList_ofList]
  exact hfrom [] s.toList (fun _ hc => nomatch hc) row hrow

end MetesBounds.Text
