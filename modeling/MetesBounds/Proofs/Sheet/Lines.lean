import MetesBounds.Proofs.Sheet.Columns

/-!
# `Sheet/Lines` — every call comes from one line and the header before it

A text is read line by line, and what a line leaves behind for the next ones is the table of headers
alone. What stands in the table for a kind is what the last header of that kind has declared
(`Sheet.lastHeader?`), so it can be read off the rows of cells on the lines. `Sheet.IsCallOfLine`
says where a call comes from without speaking of the table.

Main statement: `Sheet.isCallOfLine_of_parse`.
-/

set_option autoImplicit false

namespace MetesBounds.Sheet

variable {f : SheetFormat}

/-! ## Headers -/

section Headers

variable (f)

/-- The columns that a row declares for a kind, the kind's own first. -/
def declares? (kind : String) (cells : List String) : Option (List String) :=
  match cells with
  | tag :: declared :: columns =>
    if isHeaderTag f tag && !declared.isEmpty && declared == kind then some (declared :: columns)
    else none
  | _ => none

/-- The columns of the last header of a kind among some rows. -/
def lastHeader? (kind : String) (rows : List (List String)) : Option (List String) :=
  rows.reverse.findSome? (declares? f kind)

variable {f} {before : List (List String)} {cells : List String}

theorem lastHeader?_concat (kind : String) :
    lastHeader? f kind (before ++ [cells]) =
      (declares? f kind cells).or (lastHeader? f kind before) := by
  rw [lastHeader?, List.reverse_append, List.reverse_singleton, List.singleton_append,
    List.findSome?_cons]
  cases declares? f kind cells <;> rfl

/-- The last header of a kind is one of them. -/
theorem exists_of_lastHeader? {kind : String} {columns : List String}
    (h : lastHeader? f kind before = some columns) :
    ∃ cells ∈ before, declares? f kind cells = some columns := by
  obtain ⟨cells, hc, hcolumns⟩ := List.exists_of_findSome?_eq_some h
  exact ⟨cells, List.mem_reverse.mp hc, hcolumns⟩

/-- A header declares its columns for its kind. -/
theorem declares?_of_header {line : Nat} {declared : String} {columns : List String}
    (h : rowOfCells f line cells = .ok (.header declared columns)) (kind : String) :
    declares? f kind cells = if declared = kind then some columns else none := by
  rw [rowOfCells] at h
  split at h
  · next htag =>
    rcases cells with _ | ⟨tag, _ | ⟨declared', columns'⟩⟩
    · cases h
    · cases h
    · dsimp only [List.headD, List.drop] at h htag
      split at h
      · cases h
      · next hne =>
        cases h
        rw [Bool.not_eq_true] at hne
        simp only [declares?, htag, hne, Bool.not_false, Bool.and_self, Bool.true_and, beq_iff_eq]
  · cases h

/-- Only a header declares columns. -/
theorem rowOfCells_of_declares? {kind : String} {columns : List String}
    (h : declares? f kind cells = some columns) (line : Nat) :
    rowOfCells f line cells = .ok (.header kind columns) := by
  rcases cells with _ | ⟨tag, _ | ⟨declared, columns'⟩⟩
  · cases h
  · cases h
  · rw [declares?] at h
    split at h
    · next hand =>
      cases h
      rw [Bool.and_eq_true, Bool.and_eq_true, beq_iff_eq, Bool.not_eq_true'] at hand
      obtain ⟨⟨htag, hne⟩, rfl⟩ := hand
      simp only [rowOfCells, List.headD, List.drop, htag, hne, if_true, Bool.false_eq_true, if_false]
    · cases h

/-- A header leaves behind what it declares. -/
theorem get?_insert_of_header {headers : Headers} {line : Nat} {declared : String}
    {columns : List String} (h : rowOfCells f line cells = .ok (.header declared columns))
    (kind : String) :
    (headers.insert declared columns).get? kind =
      (declares? f kind cells).or (headers.get? kind) := by
  rw [Table.get?_insert, declares?_of_header h]
  by_cases hkind : kind = declared
  · rw [if_pos hkind, if_pos hkind.symm, Option.some_or]
  · rw [if_neg hkind, if_neg (Ne.symm hkind), Option.none_or]

/-- A row of another kind declares nothing. -/
theorem declares?_eq_none {line : Nat}
    (h : ∀ declared columns, rowOfCells f line cells ≠ .ok (.header declared columns))
    (kind : String) : declares? f kind cells = none := by
  rw [Option.eq_none_iff_forall_ne_some]
  exact fun columns hcolumns => h kind columns (rowOfCells_of_declares? hcolumns line)

end Headers

/-! ## Cells on lines -/

section Cells

variable {raw : String} {cells : List String}

theorem rowOf_eq (h : cellsOfLine f raw = .ok (some cells)) (line : Nat) :
    rowOf f line raw = rowOfCells f line cells := by
  rw [rowOf, h]
  rfl

theorem rowOf_eq_skipped (h : cellsOfLine f raw = .ok none) (line : Nat) :
    rowOf f line raw = .ok .skipped := by
  rw [rowOf, h]
  rfl

/-- The cells on a line; a line that is passed over has none. -/
def cellsOn? (f : SheetFormat) (raw : String) : Option (List String) :=
  (cellsOfLine f raw).toOption.join

/-- The rows of cells on some lines. -/
def rowsOn (f : SheetFormat) (raws : List String) : List (List String) :=
  raws.filterMap (cellsOn? f)

theorem rowsOn_concat (before : List String) (raw : String) :
    rowsOn f (before ++ [raw]) = rowsOn f before ++ (cellsOn? f raw).toList := by
  rw [rowsOn, List.filterMap_append]
  cases h : cellsOn? f raw <;> simp [rowsOn, h]

theorem cellsOn?_eq_some : cellsOn? f raw = some cells ↔ cellsOfLine f raw = .ok (some cells) := by
  rw [cellsOn?]
  cases cellsOfLine f raw with
  | error e => exact iff_of_false (by rintro ⟨⟩) (by rintro ⟨⟩)
  | ok o => exact ⟨congrArg Except.ok, Except.ok.inj⟩

end Cells

/-! ## Calls -/

variable {tag raw : String} {before : List String}

/-- Whether a text can be read is whether its lines can. -/
theorem result_parse (f : SheetFormat) (text : String) :
    (parse f text).result = (takeLines f .empty 1 (Text.lines text)).result := by
  rw [parse, Reading.bind]
  cases (takeLines f .empty 1 (Text.lines text)).result <;> rfl

/-- A call is that of a line: what the line's cells say in the columns of the last header of its kind
among the lines before it. -/
structure IsCallOfLine (f : SheetFormat) (before : List String) (raw : String)
    (columns cells : List String) (c : Call) : Prop where
  row : rowOf f (before.length + 1) raw = .ok (.data c.kind.tag cells)
  header : lastHeader? f c.kind.tag (rowsOn f before) = some columns
  call : (callOf f (before.length + 1) c.kind.tag columns cells).result = .ok c

/-- The call of a line is of the kind that the line is tagged with. -/
theorem tag_of_callOf {line : Nat} {columns cells : List String} {c : Call}
    (h : (callOf f line tag columns cells).result = .ok c) : tag = c.kind.tag := by
  rw [callOf] at h
  split at h
  · cases h
  · next kind hkind =>
    obtain ⟨given, -, h⟩ := Reading.bind_eq_ok.mp h
    split at h
    · next c' hc =>
      cases h
      rw [(Call.ofFields_eq_ok hc).1, Call.kind_ofGiven]
      have hfound := List.find?_some hkind
      exact (beq_iff_eq.mp hfound).symm
    · cases h

/-- What the headers leave behind is the last of each kind, and a call comes from its line. -/
theorem isCallOfLine_of_takeLine {headers headers' : Headers} {o : Option Call}
    (hh : ∀ tag, headers.get? tag = lastHeader? f tag (rowsOn f before))
    (h : (takeLine f headers (before.length + 1) raw).result = .ok (headers', o)) :
    (∀ tag, headers'.get? tag = lastHeader? f tag (rowsOn f (before ++ [raw]))) ∧
      ∀ c, o = some c → ∃ columns cells, IsCallOfLine f before raw columns cells c := by
  rw [rowsOn_concat]
  cases hcells : cellsOfLine f raw with
  | error e =>
    rw [takeLine, rowOf, hcells] at h
    cases h
  | ok cells? =>
    have hon : cellsOn? f raw = cells? := by
      rw [cellsOn?, hcells]
      rfl
    rw [hon]
    cases cells? with
    | none =>
      -- a line that is passed over
      rw [takeLine, rowOf_eq_skipped hcells] at h
      cases h
      rw [Option.toList_none, List.append_nil]
      exact ⟨hh, fun _ h => by cases h⟩
    | some cells =>
      have hlast (tag : String) : lastHeader? f tag (rowsOn f before ++ (some cells).toList) =
          (declares? f tag cells).or (lastHeader? f tag (rowsOn f before)) :=
        lastHeader?_concat tag
      simp only [hlast, ← hh]
      rw [takeLine, rowOf_eq hcells] at h
      split at h
      · cases h
      · next hrow =>
        cases h
        refine ⟨fun tag => ?_, fun _ h => by cases h⟩
        rw [declares?_eq_none (by rw [hrow]; rintro _ _ ⟨⟩), Option.none_or]
      · next hrow =>
        cases h
        exact ⟨get?_insert_of_header hrow, fun _ h => by cases h⟩
      · next tag cells' hrow =>
        split at h
        · cases h
        · next columns hcolumns =>
          obtain ⟨c, hc, h⟩ := Reading.bind_eq_ok.mp h
          cases h
          obtain rfl := tag_of_callOf hc
          refine ⟨fun tag => ?_, fun c' hc' => ?_⟩
          · rw [declares?_eq_none (by rw [hrow]; rintro _ _ ⟨⟩), Option.none_or]
          · cases hc'
            rw [hh] at hcolumns
            exact ⟨columns, cells', by rw [rowOf_eq hcells]; exact hrow, hcolumns, hc⟩

/-- Every call of some lines comes from one of them, read with those before it. -/
theorem isCallOfLine_of_takeLines {headers : Headers} {raws : List String} {calls : List Call}
    (hh : ∀ tag, headers.get? tag = lastHeader? f tag (rowsOn f before))
    (h : (takeLines f headers (before.length + 1) raws).result = .ok calls) {c : Call}
    (hc : c ∈ calls) :
    ∃ front raw after columns cells, raws = front ++ raw :: after ∧
      IsCallOfLine f (before ++ front) raw columns cells c := by
  induction raws generalizing before headers calls with
  | nil =>
    cases h
    cases hc
  | cons raw rest ih =>
    rw [takeLines] at h
    obtain ⟨⟨headers', o⟩, hline, h⟩ := Reading.bind_eq_ok.mp h
    obtain ⟨calls', hcalls, h⟩ := Reading.bind_eq_ok.mp h
    cases h
    obtain ⟨hh', hcall⟩ := isCallOfLine_of_takeLine hh hline
    rcases List.mem_append.mp hc with hc | hc
    · obtain ⟨columns, cells, hread⟩ := hcall c (Option.mem_toList.mp hc)
      exact ⟨[], raw, rest, columns, cells, rfl, by rwa [List.append_nil]⟩
    · have hlen : (before ++ [raw]).length + 1 = before.length + 1 + 1 := by simp
      rw [← hlen] at hcalls
      obtain ⟨front, raw', after, columns, cells, rfl, hread⟩ := ih hh' hcalls hc
      exact ⟨raw :: front, raw', after, columns, cells, rfl, by rwa [← List.append_cons] at hread⟩

/-- **Every call of a text comes from one line and the header before it.** -/
theorem isCallOfLine_of_parse {text : String} {calls : List Call}
    (h : (parse f text).result = .ok calls) {c : Call} (hc : c ∈ calls) :
    ∃ before raw after columns cells, Text.lines text = before ++ raw :: after ∧
      IsCallOfLine f before raw columns cells c := by
  rw [result_parse] at h
  have hstart : ∀ tag, (.empty : Headers).get? tag = lastHeader? f tag (rowsOn f []) := fun _ => rfl
  exact isCallOfLine_of_takeLines hstart h hc

end MetesBounds.Sheet
