import MetesBounds.Proofs.Sheet.Lines
import MetesBounds.Proofs.Sheet.Refusals
import MetesBounds.Proofs.Text.Cut

/-!
# `Sheet/FirstFault` — a text is refused over its first bad line

Lines are read in order, and the first that cannot be read ends the reading. So an error names the
first bad line, and it tells nothing of what is behind it: what is before can be read, and a text
that begins with the same lines is refused with the same error, however it goes on.

Main statement: `Sheet.refused_over_first_fault`.
-/

set_option autoImplicit false

namespace MetesBounds.Sheet

section Lines

variable {f : SheetFormat} {headers : Headers} {line : Nat} {raws : List String}

/-- Lines are refused over one of them. Those before it are read, and those behind it do not
matter. -/
theorem refused_takeLines {err : Error} (h : (takeLines f headers line raws).result = .error err) :
    ∃ front raw behind headers', raws = front ++ raw :: behind ∧
      (takeLine f headers' (line + front.length) raw).result = .error err ∧
      (∃ calls, (takeLines f headers line front).result = .ok calls) ∧
      ∀ rest, (takeLines f headers line (front ++ raw :: rest)).result = .error err := by
  induction raws generalizing headers line with
  | nil => cases h
  | cons raw behind ih =>
    rw [takeLines] at h
    rcases Reading.bind_eq_error.mp h with hraw | ⟨⟨headers', o⟩, hraw, hbehind⟩
    · refine ⟨[], raw, behind, headers, rfl, hraw, ⟨[], rfl⟩, fun rest => ?_⟩
      exact Reading.bind_eq_error.mpr (.inl hraw)
    · obtain hbehind | ⟨calls, -, hbehind⟩ := Reading.bind_eq_error.mp hbehind
      · obtain ⟨front, raw', behind', headers'', rfl, hraw', ⟨calls, hfront⟩, hsame⟩ := ih hbehind
        rw [Nat.add_right_comm, Nat.add_assoc, ← List.length_cons (a := raw)] at hraw'
        refine ⟨raw :: front, raw', behind', headers'', rfl, hraw', ⟨o.toList ++ calls, ?_⟩,
          fun rest => ?_⟩
        · exact Reading.bind_eq_ok.mpr ⟨_, hraw, Reading.bind_eq_ok.mpr ⟨calls, hfront, rfl⟩⟩
        · exact Reading.bind_eq_error.mpr
            (.inr ⟨_, hraw, Reading.bind_eq_error.mpr (.inl (hsame rest))⟩)
      · cases hbehind

end Lines

variable {d start tag suffix marker encoding : String}

/-- **A text is refused over its first bad line.** Whatever the sheet is written with, as long as
lines are cut at something, an error blames one of the lines: the text before it can be read, and
the text as far as it is refused with that error, whatever follows. -/
theorem refused_over_first_fault (hd : d ≠ "") {text : String} {err : Error}
    (h : (parse (.ofTexts d start tag suffix marker encoding) text).result = .error err) :
    let f : SheetFormat := .ofTexts d start tag suffix marker encoding
    ∃ n, 1 ≤ n ∧ n ≤ (Text.lines text).length ∧ err.Blames n ∧
      (∃ calls, (parse f (Text.firstLines (n - 1) text)).result = .ok calls) ∧
      (∀ more, (parse f (Text.firstLines n text ++ "\n" ++ more)).result = .error err) ∧
      ∀ text', (Text.lines text).take n <+: Text.lines text' →
        (parse f text').result = .error err := by
  intro f
  have hd : d.isEmpty = false := by rw [Bool.eq_false_iff, ne_eq, String.isEmpty_iff]; exact hd
  rw [result_parse] at h
  obtain ⟨front, raw, behind, headers, hlines, hraw, ⟨calls, hfront⟩, hsame⟩ := refused_takeLines h
  have hblames : err.Blames (front.length + 1) := by
    rw [Nat.add_comm]
    exact blames_takeLine hd _ _ _ err hraw
  have htake : (Text.lines text).take (front.length + 1) = front ++ [raw] := by
    rw [hlines, List.take_append, List.take_of_length_le (Nat.le_succ _), Nat.add_sub_cancel_left]
    rfl
  have hbegins : ∀ text', (Text.lines text).take (front.length + 1) <+: Text.lines text' →
      (parse f text').result = .error err := by
    rintro text' ⟨rest, hrest⟩
    rw [result_parse, ← hrest, htake, List.append_assoc]
    exact hsame rest
  refine ⟨front.length + 1, Nat.le_add_left 1 _, ?_, hblames, ⟨calls, ?_⟩, fun more => ?_, hbegins⟩
  · rw [hlines, List.length_append, List.length_cons]
    exact Nat.add_le_add_left (Nat.le_add_left 1 _) _
  · rw [result_parse, Text.lines_firstLines, Nat.add_sub_cancel, hlines, List.take_left]
    exact hfront
  · refine hbegins _ ?_
    rw [← Text.lines_firstLines]
    exact Text.lines_prefix_append _ more

/-- A point without a header, behind a comment. -/
theorem refused_over_first_fault_noHeader :
    let f := SheetFormat.usual
    let text := "# plan\nP,1,2\n# end\n"
    "," ≠ "" ∧ ∃ err, (parse f text).result = .error err ∧
    ∃ n, 1 ≤ n ∧ n ≤ (Text.lines text).length ∧ err.Blames n ∧
      (∃ calls, (parse f (Text.firstLines (n - 1) text)).result = .ok calls) ∧
      (∀ more, (parse f (Text.firstLines n text ++ "\n" ++ more)).result = .error err) ∧
      ∀ text', (Text.lines text).take n <+: Text.lines text' →
        (parse f text').result = .error err := by
  intro f text
  cases h : (parse f text).result with
  | ok calls =>
    have hrefused : (parse f text).result.isOk = false := by decide +kernel
    rw [h] at hrefused
    cases hrefused
  | error err => exact ⟨by decide, err, rfl, refused_over_first_fault (by decide) h⟩

end MetesBounds.Sheet
