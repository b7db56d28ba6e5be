import MetesBounds.Proofs.Sheet.Lines
import MetesBounds.Proofs.Text.Joined

/-!
# `Sheet/Rows` — a sheet is read as the cells it was written from

A sheet may be thought of as rows of cells; as a text it has lost where they begin and end. Read
back, it is taken apart at line ends, stripped of white space, cut at the delimiter and stripped
again, and then each line is looked at with what the headers before it have left behind. For rows
that are written out with care (`Sheet.Written`) nothing of this comes between the cells and their
columns: every row is read by itself, with the last header of its kind before it (`Sheet.readRow`),
and every call holds what its cells say.

Main statement: `Sheet.parse_written`.
-/

set_option autoImplicit false

namespace MetesBounds.Sheet

namespace Reading

variable {α β γ : Type}

theorem pure_bind (a : α) (g : α → Reading β) : (pure a).bind g = g a := rfl

theorem bind_assoc (r : Reading α) (g : α → Reading β) (h : β → Reading γ) :
    (r.bind g).bind h = r.bind fun a => (g a).bind h := by
  obtain ⟨result, log⟩ := r
  cases result with
  | error e => rfl
  | ok a =>
    simp only [bind]
    cases (g a).result with
    | error e => rfl
    | ok b => simp only [List.append_assoc]

end Reading

/-! ## Rows of cells -/

section Rows

variable (f : SheetFormat)

/-- The call of a row, if it is none of a header, given the rows before it. -/
def readRow (before : List (List String)) (cells : List String) : Reading (Option Call) :=
  let line := before.length + 1
  match rowOfCells f line cells with
  | .ok (.data kind cells) =>
    match lastHeader? f kind before with
    | none => .fail (.onLine line (.unknownKind kind))
    | some columns => (callOf f line kind columns cells).bind fun call => .pure (some call)
  | .ok _ => .pure none
  | .error e => .fail e

/-- The calls of rows, given the rows before them. -/
def readRows (before : List (List String)) : List (List String) → Reading (List Call)
  | [] => .pure []
  | cells :: rest =>
    (readRow f before cells).bind fun call =>
      (readRows (before ++ [cells]) rest).bind fun calls => .pure (call.toList ++ calls)

end Rows

variable {f : SheetFormat} {before rows : List (List String)} {cells : List String}

/-- **What the headers before a row have left behind is the last of each kind**, so a line is read
as the row that it is. -/
theorem takeLine_eq {headers : Headers} {line : String}
    (hh : ∀ kind, headers.get? kind = lastHeader? f kind before)
    (hcells : cellsOfLine f line = .ok (some cells)) :
    ∃ headers' : Headers, (∀ kind, headers'.get? kind = lastHeader? f kind (before ++ [cells])) ∧
      takeLine f headers (before.length + 1) line =
        (readRow f before cells).bind fun call => .pure (headers', call) := by
  simp only [lastHeader?_concat, takeLine, readRow, rowOf_eq hcells, ← hh]
  by_cases hheader : ∃ declared columns,
      rowOfCells f (before.length + 1) cells = .ok (.header declared columns)
  · obtain ⟨declared, columns, hcells⟩ := hheader
    rw [hcells]
    exact ⟨headers.insert declared columns, get?_insert_of_header hcells, rfl⟩
  · -- any other row leaves the headers as they are
    have hnone : ∀ kind, declares? f kind cells = none :=
      declares?_eq_none fun declared columns hcells => hheader ⟨declared, columns, hcells⟩
    refine ⟨headers, fun kind => by rw [hnone, Option.none_or], ?_⟩
    cases hcells : rowOfCells f (before.length + 1) cells with
    | error e => rfl
    | ok row =>
      cases row with
      | skipped => rfl
      | header declared columns => exact absurd ⟨declared, columns, hcells⟩ hheader
      | data kind cells' =>
        dsimp only
        cases headers.get? kind with
        | none => rfl
        | some columns => simp only [Reading.bind_assoc, Reading.pure_bind]

/-- **Lines are read as the rows that they are**, each with the rows before it. -/
theorem takeLines_eq {lineOf : List String → String} {headers : Headers}
    (hh : ∀ kind, headers.get? kind = lastHeader? f kind before)
    (hrows : ∀ cells ∈ rows, cellsOfLine f (lineOf cells) = .ok (some cells)) :
    takeLines f headers (before.length + 1) (rows.map lineOf) = readRows f before rows := by
  induction rows generalizing before headers with
  | nil => rfl
  | cons cells rest ih =>
    rw [List.forall_mem_cons] at hrows
    -- the other lines are read with the headers, and numbered from the place, of one row more
    obtain ⟨headers', hh', htake⟩ := takeLine_eq hh hrows.1
    have hrest := ih hh' hrows.2
    rw [List.length_append, List.length_singleton] at hrest
    rw [List.map_cons, takeLines, readRows, htake, Reading.bind_assoc]
    simp only [Reading.pure_bind, hrest]

/-! ## Rows that are written out -/

/-- What rows have to be like to be found again in the text that they are written out to: the
separator is one character, and neither it nor any cell ends a line; no cell holds the separator or
has white space at its ends; no row begins with an empty cell or like a comment; and where the
separator is white space, no row ends with an empty cell. -/
structure Written (sep comment : String) (rows : List (List String)) : Prop where
  one : Text.IsOne sep
  unbroken : ∀ c ∈ sep.toList, Text.isLineBreak c = false
  first : ∀ cells ∈ rows, cells.headD "" ≠ ""
  whole : ∀ cells ∈ rows, ∀ cell ∈ cells, ¬sep.toList <:+: cell.toList
  trimmed : ∀ cells ∈ rows, ∀ cell ∈ cells, Text.trim cell = cell
  oneLine : ∀ cells ∈ rows, ∀ cell ∈ cells, ∀ c ∈ cell.toList, Text.isLineBreak c = false
  noComment : ∀ cells ∈ rows, Text.beginsWith comment (sep.intercalate cells) = false
  closed : (∀ c ∈ sep.toList, Text.isBlank c = false) ∨ ∀ cells ∈ rows, cells.getLastD "" ≠ ""

namespace Written

variable {sep comment : String}

/-- A row has cells, the first of which is not empty. -/
theorem exists_cons (h : Written sep comment rows) (hc : cells ∈ rows) :
    ∃ cell rest, cells = cell :: rest ∧ cell ≠ "" := by
  have hfirst := h.first cells hc
  cases cells with
  | nil => exact absurd rfl hfirst
  | cons cell rest => exact ⟨cell, rest, rfl, hfirst⟩

theorem row_ne (h : Written sep comment rows) (hc : cells ∈ rows) : sep.intercalate cells ≠ "" := by
  obtain ⟨cell, rest, rfl, hcell⟩ := h.exists_cons hc
  cases rest with
  | nil =>
    rw [String.intercalate_singleton]
    exact hcell
  | cons cell' rest =>
    rw [String.intercalate_cons_cons, ne_eq, String.append_eq_empty_iff, String.append_eq_empty_iff]
    exact fun hempty => hcell hempty.1.1

/-- No white space is at the ends of a row. -/
theorem trim_row (h : Written sep comment rows) (hc : cells ∈ rows) :
    Text.trim (sep.intercalate cells) = sep.intercalate cells := by
  obtain ⟨cell, rest, rfl, hcell⟩ := h.exists_cons hc
  have hsep : sep.toList ≠ [] := by
    obtain ⟨c, cs, hcons, -⟩ := h.one.cons
    rw [hcons]
    exact List.cons_ne_nil c cs
  have htight : ∀ cs ∈ (cell :: rest).map String.toList, Text.Tight Text.isBlank cs := by
    intro cs hcs
    obtain ⟨s, hs, rfl⟩ := List.mem_map.mp hcs
    exact Text.trim_eq_self_iff.mp (h.trimmed _ hc s hs)
  rw [Text.trim_eq_self_iff, String.toList_intercalate]
  refine Text.tight_intercalate hsep (fun hnil => hcell (String.toList_eq_nil_iff.mp hnil)) htight ?_
  rcases h.closed with hsep | hlast
  · exact .inl hsep
  · refine .inr fun hnil => hlast _ hc ?_
    rw [← List.map_cons, List.getLast?_map, Option.map_eq_some_iff] at hnil
    obtain ⟨s, hs, hnil⟩ := hnil
    rw [List.getLastD_eq_getLast?, hs]
    exact String.toList_eq_nil_iff.mp hnil

/-- A row is found again in its line. -/
theorem cellsOfLine_eq (h : Written sep comment rows) (hc : cells ∈ rows)
    (hd : f.delimiter = .text sep) (hs : f.commentStart = .text comment) :
    cellsOfLine f (sep.intercalate cells) = .ok (some cells) := by
  have hne : cells ≠ [] := by
    obtain ⟨cell, rest, rfl, -⟩ := h.exists_cons hc
    exact List.cons_ne_nil cell rest
  have hnonempty : (sep.intercalate cells).isEmpty = false := by
    rw [Bool.eq_false_iff, ne_eq, String.isEmpty_iff]
    exact h.row_ne hc
  have hpassed : isPassedOver f (sep.intercalate cells) = .ok false := by
    rw [isPassedOver, hnonempty, if_neg Bool.false_ne_true, hs]
    exact congrArg Except.ok (h.noComment cells hc)
  have hsep : sep.isEmpty = false := by
    obtain ⟨c, cs, hcons, -⟩ := h.one.cons
    rw [Bool.eq_false_iff, ne_eq, String.isEmpty_iff, ← String.toList_eq_nil_iff, hcons]
    exact List.cons_ne_nil c cs
  have hcells : cellsOf f (sep.intercalate cells) = .ok cells := by
    rw [cellsOf, hd]
    dsimp only
    rw [hsep, if_neg Bool.false_ne_true, Text.pieces_intercalate h.one hne (h.whole cells hc)]
    exact congrArg Except.ok
      ((List.map_congr_left (h.trimmed cells hc)).trans (List.map_id cells))
  rw [cellsOfLine, h.trim_row hc, hpassed, hcells]
  rfl

/-- The lines of rows that are written out are those rows. -/
theorem lines_eq (h : Written sep comment rows) :
    Text.lines ("\n".intercalate (rows.map sep.intercalate)) = rows.map sep.intercalate := by
  refine Text.lines_intercalate fun row hrow => ?_
  obtain ⟨cells, hc, rfl⟩ := List.mem_map.mp hrow
  refine ⟨h.row_ne hc, fun c hc' => ?_⟩
  rw [String.toList_intercalate] at hc'
  rcases Text.mem_intercalate hc' with hc' | ⟨cs, hcs, hc'⟩
  · exact h.unbroken c hc'
  · obtain ⟨cell, hcell, rfl⟩ := List.mem_map.mp hcs
    exact h.oneLine cells hc cell hcell c hc'

end Written

/-! ## What is read -/

/-- The rows that are none of headers, with the number of rows before each. -/
def dataRows (f : SheetFormat) (rows : List (List String)) : List (List String × Nat) :=
  rows.zipIdx.filter fun r => !isHeaderTag f (r.1.headD "")

/-- A call is that of a row: it is of the row's kind and holds what the row's cells say in the
columns of the last header of that kind before it. -/
def IsCallOf (f : SheetFormat) (marker suffix : String) (rows : List (List String))
    (r : List String × Nat) (c : Call) : Prop :=
  ∃ kind columns, Kind.ofTag? (r.1.headD "") = some kind ∧
    lastHeader? f (r.1.headD "") (rows.take r.2) = some columns ∧
    Holds marker suffix kind (columns.drop 1) (r.1.drop 1) c

section Calls

variable {marker suffix : String}

/-- No header among some rows names a field of its kind twice. -/
def DistinctHeaders (f : SheetFormat) (suffix : String) (rows : List (List String)) : Prop :=
  ∀ cells ∈ rows, isHeaderTag f (cells.headD "") = true →
    ∀ kind ∈ Kind.all, kind.tag = cells.getD 1 "" → Distinct suffix kind (cells.drop 2)

instance (f : SheetFormat) (suffix : String) (rows : List (List String)) :
    Decidable (DistinctHeaders f suffix rows) :=
  inferInstanceAs (Decidable (∀ _ ∈ rows, _ → ∀ _ ∈ Kind.all, _ → _))

/-- What a header declares names no field twice. -/
theorem DistinctHeaders.declares (h : DistinctHeaders f suffix rows) (hc : cells ∈ rows)
    {tag : String} {columns : List String} (hcolumns : declares? f tag cells = some columns)
    {kind : Kind} (hkind : Kind.ofTag? tag = some kind) : Distinct suffix kind (columns.drop 1) := by
  have hdistinct := h cells hc
  rcases cells with _ | ⟨first, _ | ⟨declared, columns'⟩⟩
  · cases hcolumns
  · cases hcolumns
  · rw [declares?] at hcolumns
    split at hcolumns
    · next hand =>
      cases hcolumns
      rw [Bool.and_eq_true, Bool.and_eq_true, beq_iff_eq] at hand
      obtain ⟨⟨htag, -⟩, rfl⟩ := hand
      have hfound := List.find?_some hkind
      exact hdistinct htag kind (List.mem_of_find?_eq_some hkind) (beq_iff_eq.mp hfound)
    · cases hcolumns

/-- A row whose cells are data is not one of a header, and its cells are its own. -/
theorem eq_of_rowOfCells_data {line : Nat} {kind : String} {cells' : List String}
    (h : rowOfCells f line cells = .ok (.data kind cells')) :
    isHeaderTag f (cells.headD "") = false ∧ kind = cells.headD "" ∧ cells' = cells := by
  rw [rowOfCells] at h
  split at h
  · split at h
    · cases h
    · split at h <;> cases h
  · next htag =>
    cases h
    exact ⟨Bool.eq_false_iff.mpr htag, rfl, rfl⟩

/-- A row whose cells are no data but something is one of a header. -/
theorem isHeaderTag_of_rowOfCells {line : Nat} {row : Row} (h : rowOfCells f line cells = .ok row)
    (hrow : ∀ kind cells', row ≠ .data kind cells') : isHeaderTag f (cells.headD "") = true := by
  rw [rowOfCells] at h
  split at h
  · next htag => exact htag
  · cases h
    exact absurd rfl (hrow _ _)

/-- A row is one of a header, or it holds a call as its cells say. -/
theorem isCallOf_of_readRow (hm : f.marker = .text marker) (hs : f.suffix = suffix)
    (hd : DistinctHeaders f suffix before) {o : Option Call}
    (h : (readRow f before cells).result = .ok o) :
    (isHeaderTag f (cells.headD "") = true ∧ o = none) ∨
      ∃ c, isHeaderTag f (cells.headD "") = false ∧ o = some c ∧
        ∀ rest, IsCallOf f marker suffix (before ++ rest) (cells, before.length) c := by
  rw [readRow] at h
  split at h
  · next kind cells' hcells =>
    obtain ⟨htag, rfl, rfl⟩ := eq_of_rowOfCells_data hcells
    split at h
    · cases h
    · next columns hcolumns =>
      obtain ⟨c, hc, h⟩ := Reading.bind_eq_ok.mp h
      cases h
      obtain ⟨header, hmem, hheader⟩ := exists_of_lastHeader? hcolumns
      obtain ⟨kind, hkind, hholds⟩ :=
        holds_of_callOf hm hs (fun kind hkind => hd.declares hmem hheader hkind) hc
      refine .inr ⟨c, htag, rfl, fun rest => ⟨kind, columns, hkind, ?_, hholds⟩⟩
      rw [List.take_left]
      exact hcolumns
  · next row hrow hcells =>
    cases h
    exact .inl ⟨isHeaderTag_of_rowOfCells hcells fun kind cells' heq => hrow kind cells' heq, rfl⟩
  · cases h

/-- **The calls of rows are those of the rows that are none of headers**, in order. -/
theorem paired_of_readRows (hm : f.marker = .text marker) (hs : f.suffix = suffix)
    (hd : DistinctHeaders f suffix (before ++ rows)) {calls : List Call}
    (h : (readRows f before rows).result = .ok calls) :
    Paired (IsCallOf f marker suffix (before ++ rows))
      ((rows.zipIdx before.length).filter fun r => !isHeaderTag f (r.1.headD "")) calls := by
  induction rows generalizing before calls with
  | nil =>
    cases h
    exact .nil
  | cons cells rest ih =>
    obtain ⟨o, ho, h⟩ := Reading.bind_eq_ok.mp h
    obtain ⟨calls', hcalls, h⟩ := Reading.bind_eq_ok.mp h
    cases h
    have hbefore : DistinctHeaders f suffix before := fun header hmem =>
      hd header (List.mem_append_left _ hmem)
    rw [List.append_cons] at hd
    have hrest := ih hd hcalls
    rw [List.length_append, List.length_singleton, ← List.append_cons] at hrest
    rw [List.zipIdx_cons]
    rcases isCallOf_of_readRow hm hs hbefore ho with ⟨htag, rfl⟩ | ⟨c, htag, rfl, hc⟩
    · rw [List.filter_cons_of_neg (by rw [htag]; exact Bool.false_ne_true)]
      exact hrest
    · rw [List.filter_cons_of_pos (by rw [htag]; rfl)]
      exact hrest.cons (hc _)

end Calls

/-- **A sheet is read as the cells it was written from.** Whatever it is written with, as long as the
delimiter is one character, rows that can be found again come to what they come to as cells: to the
same calls or the same error, with the same reports. Where they come to calls, these are those of the
rows that are none of headers, in order, and each of them holds what its own cells say in the columns
of the last header of its kind. -/
theorem parse_written (sep comment tag suffix marker encoding : String)
    {rows : List (List String)} (hw : Written sep comment rows)
    (hd : DistinctHeaders (.ofTexts sep comment tag suffix marker encoding) suffix rows) :
    let f : SheetFormat := .ofTexts sep comment tag suffix marker encoding
    let reading := parse f ("\n".intercalate (rows.map sep.intercalate))
    reading = ((readRows f [] rows).bind fun calls =>
        ⟨.ok calls, [note .info ("Parsed " ++ toString calls.length ++ " records")]⟩) ∧
      ∀ calls, reading.result = .ok calls →
        Paired (IsCallOf f marker suffix rows) (dataRows f rows) calls := by
  intro f reading
  have hempty : ∀ kind, Table.get? (.empty : Headers) kind = lastHeader? f kind [] := fun _ => rfl
  have hlines : takeLines f .empty 1 (rows.map sep.intercalate) = readRows f [] rows :=
    takeLines_eq hempty fun cells hc => hw.cellsOfLine_eq hc rfl rfl
  have hreading : reading = (readRows f [] rows).bind fun calls =>
      ⟨.ok calls, [note .info ("Parsed " ++ toString calls.length ++ " records")]⟩ := by
    rw [← hlines]
    simp only [reading, parse, hw.lines_eq]
  refine ⟨hreading, fun calls hcalls => ?_⟩
  rw [hreading] at hcalls
  obtain ⟨calls', hcalls', h⟩ := Reading.bind_eq_ok.mp hcalls
  cases h
  have hd : DistinctHeaders f suffix ([] ++ rows) := hd
  exact paired_of_readRows rfl rfl hd hcalls'

/-- What holds of all characters of a text is decided by looking at these, and not at all
characters that there are. -/
instance decidableForallMem {p : Char → Prop} [DecidablePred p] (cs : List Char) :
    Decidable (∀ c ∈ cs, p c) :=
  List.decidableBAll _ cs

/-- A sheet with a marked cell, a row that is cut short, and a column that takes the rest. -/
def sampleRows : List (List String) := [
  ["H", "L", "Bearing", "Distance", "Direction"],
  ["L", "N1E", "$b"],
  ["H", "F", "Memo", "Name", "Args..."],
  ["F", "2", "f", "x", "", "y", ""]]

theorem parse_written_sample :
    let f := SheetFormat.usual
    Written "," "#" sampleRows ∧ DistinctHeaders f "..." sampleRows ∧
      ∃ calls, (parse f ("\n".intercalate (sampleRows.map ",".intercalate))).result = .ok calls ∧
        Paired (IsCallOf f "$" "..." sampleRows) (dataRows f sampleRows) calls := by
  intro f
  have hw : Written "," "#" sampleRows := by
    refine ⟨⟨0x2C, by decide, by decide⟩, ?_, ?_, ?_, ?_, ?_, ?_, .inl ?_⟩
    all_goals decide +kernel
  have hd : DistinctHeaders f "..." sampleRows := by decide +kernel
  obtain ⟨calls, hcalls⟩ :
      ∃ calls, (parse f ("\n".intercalate (sampleRows.map ",".intercalate))).result = .ok calls :=
    exists_eq_ok (by decide +kernel)
  have hread := (parse_written "," "#" "H" "..." "$" "utf-8" hw hd).2
  exact ⟨hw, hd, calls, hcalls, hread calls hcalls⟩

end MetesBounds.Sheet
