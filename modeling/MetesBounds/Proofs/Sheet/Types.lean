import MetesBounds.Proofs.Sheet.Lines

/-!
# `Sheet/Types` — which calls of a sheet hold what their fields are declared to hold

Every field of a call has a type: a memo is text, a distance a double or a reference, arguments a row.
Reading a sheet does not look at these types. What a cell is read as fits its field, but it is the
header that decides whether a field is given a cell or a row of cells, and it may decide for either
whatever the field. So a call is of the declared types just where three things hold of its line and
of the header before it (`Sheet.Fits`): only arguments take the rest of a line, arguments take it
where they are given, and the name in a binding call is no reference.

Main statement: `Sheet.wellTyped_iff_fits`.
-/

set_option autoImplicit false

namespace MetesBounds

/-! ## Declared types -/

namespace Value

/-- Whether a value is text. -/
def isText : Value → Bool
  | text _ => true
  | _ => false

/-- Whether a value is a double. -/
def isReal : Value → Bool
  | number (.real _) => true
  | _ => false

/-- Whether a value is a reference. -/
def isReference : Value → Bool
  | reference _ => true
  | _ => false

/-- Whether a value is nothing. -/
def isNothing : Value → Bool
  | nothing => true
  | _ => false

/-- Whether a value is a row of texts and references. -/
def isTextRow : Value → Bool
  | row items => items.all fun v => v.isText || v.isReference
  | _ => false

end Value

/-- Whether a value is of the type that a field of a kind is declared with. -/
def Kind.declares (k : Kind) (f : Field) (v : Value) : Bool :=
  match f with
  | .memo => v.isText
  | .latitude | .longitude | .distance | .radius => v.isReal || v.isReference
  | .turnForCenter => v.isReal || v.isReference || v.isNothing
  | .bearing | .direction => v.isText || v.isReference
  | .delta => v.isText || v.isReference || v.isNothing
  | .name => v.isText || (k == .procedure && v.isReference)
  | .args => v.isTextRow

/-- Whether every field of a call holds a value of its declared type. -/
def Call.wellTyped (c : Call) : Bool := c.entries.all fun e => c.kind.declares e.1 e.2

theorem Call.entries_eq (c : Call) : c.entries = c.kind.fields.map fun f => (f, c.value f) := by
  cases c <;> rfl

theorem Call.wellTyped_iff {c : Call} :
    c.wellTyped = true ↔ ∀ f ∈ c.kind.fields, c.kind.declares f (c.value f) = true := by
  rw [wellTyped, entries_eq, List.all_map, List.all_eq_true]
  rfl

/-- What a field holds that need not be given and is not given is of its declared type. -/
theorem Kind.declares_usual {k : Kind} {f : Field} (hf : f ∈ k.fields) (hr : f ∉ k.required) :
    k.declares f (k.usual f) = true := by
  cases k <;> cases f <;> first | rfl | exact absurd hf (by decide) | exact absurd (by decide) hr

namespace Sheet

variable {f : SheetFormat} {kind : Kind} {field : Field} {line : Nat}

/-! ## Cells -/

/-- Whether a value is one that a single cell of a field can be read as. -/
def ofCell (field : Field) (v : Value) : Bool :=
  if field = .memo then v.isText
  else v.isReference || (if isNumeric field then v.isReal else v.isText) ||
    (isOptional field && v.isNothing)

/-- What a cell is read as fits the field that it is read for. -/
theorem ofCell_of_cellValue {cell : String} {v : Value}
    (h : cellValue f line field cell = .ok v) : ofCell field v = true := by
  rw [cellValue] at h
  rw [ofCell]
  split at h
  · next hm => rw [if_pos hm]; cases h; rfl
  · next hm =>
    rw [if_neg hm]
    obtain ⟨name?, -, h⟩ := bind_eq_ok.mp h
    split at h
    · cases h; rfl
    · split at h
      · next ho =>
        rw [Bool.and_eq_true] at ho
        cases h
        simp [ho.1, Value.isNothing]
      · split at h
        · next hn =>
          split at h
          · cases h; simp [hn, Value.isReal]
          · cases h
        · next hn => cases h; simp [hn, Value.isText]

/-- A cell is a reference just where it begins with the marker, and text otherwise, if it is neither a
number nor left open. -/
theorem isText_of_cellValue {cell : String} {v : Value} (hm : field ≠ .memo)
    (hn : isNumeric field = false) (ho : isOptional field = false)
    (h : cellValue f line field cell = .ok v) :
    v.isText = true ↔ referred? f cell = .ok none := by
  rw [cellValue, if_neg hm] at h
  obtain ⟨name?, hname, h⟩ := bind_eq_ok.mp h
  rw [hname]
  cases name? with
  | some name =>
    cases h
    exact iff_of_false Bool.false_ne_true (by rintro ⟨⟩)
  | none =>
    rw [ho, hn] at h
    cases h
    exact iff_of_true rfl rfl

/-- What a cell can be read as is what its field is declared with, unless that is a name or takes the
rest. -/
theorem declares_eq_ofCell (hn : field ≠ .name) (ha : field ≠ .args) (v : Value) :
    kind.declares field v = ofCell field v := by
  cases field with
  | name => exact absurd rfl hn
  | args => exact absurd rfl ha
  | memo => rfl
  | _ => simp [Kind.declares, ofCell, isNumeric, isOptional, Bool.or_comm]

/-- A cell of a name is of the declared type, unless it is a reference that a binding call would
bind. -/
theorem declares_name {v : Value} (hf : .name ∈ kind.fields) (h : ofCell .name v = true) :
    kind.declares .name v = true ↔ (kind = .binding → v.isText = true) := by
  have hcell : v.isReference = true ∨ v.isText = true := by
    simpa [ofCell, isNumeric, isOptional] using h
  cases kind with
  | procedure => simpa [Kind.declares, or_comm] using hcell
  | binding => simp [Kind.declares]
  | _ => exact absurd hf (by decide)

/-- A cell is no row. -/
theorem not_isTextRow_of_ofCell {v : Value} (h : ofCell field v = true) : v.isTextRow = false := by
  cases v with
  | row items => cases field <;> cases h
  | _ => rfl

/-- Nothing is only what a cell is read as that leaves its field open. -/
theorem isNothing_of_ofCell {v : Value} (h : ofCell field v = true)
    (ho : isOptional field = false) : v.isNothing = false := by
  cases v with
  | nothing =>
    simp [ofCell, ho, Value.isText, Value.isReal, Value.isReference] at h
  | _ => rfl

/-- Of all fields only arguments are declared to hold a row, and the cells of arguments make one. -/
theorem declares_row {items : List Value} (h : ∀ v ∈ items, ofCell field v = true) :
    kind.declares field (.row items) = true ↔ field = .args := by
  constructor
  · intro hd
    cases field with
    | args => rfl
    | name => simp [Kind.declares, Value.isText, Value.isReference] at hd
    | _ => cases hd
  · rintro rfl
    refine List.all_eq_true.mpr fun v hv => ?_
    simpa [ofCell, isNumeric, isOptional, or_comm] using h v hv

/-! ## Columns -/

/-- The field that is given the rest of a line: that of the column which takes it. -/
def restField? (f : SheetFormat) (kind : Kind) : List String → Option Field
  | [] => none
  | name :: columns =>
    match standing? f.suffix kind columns.isEmpty name with
    | some (field, true) => some field
    | _ => restField? f kind columns

/-- The cell that a field is given: that of the last column which stands for it alone and has a
cell. -/
def plainCell? (f : SheetFormat) (kind : Kind) (field : Field) :
    List String → List String → Option String
  | [], _ => none
  | name :: columns, cells =>
    (plainCell? f kind field columns (cells.drop 1)).or
      (if standing? f.suffix kind columns.isEmpty name = some (field, false) then cells.head?
      else none)

/-- Only the last column takes the rest. -/
theorem takesRest_of_standing? {isLast takesRest : Bool} {name : String}
    (h : standing? f.suffix kind isLast name = some (field, takesRest)) (ht : takesRest = true) :
    isLast = true := by
  subst ht
  cases isLast with
  | true => rfl
  | false =>
    simp only [standing?, Bool.false_eq_true, if_false] at h
    obtain ⟨_, -, heq⟩ := Option.map_eq_some_iff.mp h
    cases heq

theorem mem_fields_of_restField? {columns : List String}
    (h : restField? f kind columns = some field) : field ∈ kind.fields := by
  induction columns with
  | nil => cases h
  | cons name columns ih =>
    rw [restField?] at h
    split at h
    · next hs => cases h; exact mem_fields_of_standing? hs
    · exact ih h

theorem mem_fields_of_plainCell? {columns cells : List String} {cell : String}
    (h : plainCell? f kind field columns cells = some cell) : field ∈ kind.fields := by
  induction columns generalizing cells with
  | nil => cases h
  | cons name columns ih =>
    rw [plainCell?, Option.or_eq_some_iff] at h
    rcases h with h | ⟨-, h⟩
    · exact ih h
    · split at h
      · next hs => exact mem_fields_of_standing? hs
      · cases h

/-- What a row of cells is read as. -/
theorem row_of_columnValue {cells : List String} {o : Option Value}
    (h : columnValue f line field true cells = .ok o) :
    ∃ items, o = some (.row items) ∧ ∀ v ∈ items, ofCell field v = true := by
  unfold columnValue at h
  rw [if_pos rfl] at h
  obtain ⟨items, hitems, h⟩ := bind_eq_ok.mp h
  cases h
  have hread : List.Forall₂ (fun v _ => ofCell field v = true ∧ True) items (dropEmptyEnd cells) :=
    .flip ((forall₂_of_mapM hitems).imp fun _ _ hv => ⟨ofCell_of_cellValue hv, trivial⟩)
  exact ⟨items, rfl, ((List.forall₂_and_left _ _).mp hread).1⟩

/-- What one cell is read as: nothing at all where there is none, or where it leaves its field
open. -/
theorem cell_of_columnValue {cells : List String} {o : Option Value}
    (h : columnValue f line field false cells = .ok o) :
    match cells.head? with
    | none => o = none
    | some cell => ∃ v, cellValue f line field cell = .ok v ∧
        o = (if v.isNothing then none else some v) := by
  unfold columnValue at h
  rw [if_neg Bool.false_ne_true] at h
  cases cells with
  | nil => cases h; rfl
  | cons cell rest =>
    obtain ⟨v, hv, h⟩ := bind_eq_ok.mp h
    refine ⟨v, hv, ?_⟩
    cases v <;> cases h <;> rfl

/-- What a field holds behind the columns of a header, given what it has held before, the field that
takes the rest, and the field's own last cell. -/
structure Filled (f : SheetFormat) (line : Nat) (field : Field) (rest? : Option Field)
    (cell? : Option String) (before after : Option Value) : Prop where
  /-- The field that takes the rest holds a row of what the cells are read as. -/
  rest : rest? = some field →
    ∃ items, after = some (.row items) ∧ ∀ v ∈ items, ofCell field v = true
  /-- Any other field holds what a cell is read as, or what it has held before. -/
  fits : rest? ≠ some field → after = before ∨ ∃ v, after = some v ∧ ofCell field v = true
  /-- Its last cell counts, if no cell of it can be left open. -/
  cell : rest? ≠ some field → isOptional field = false → ∀ cell, cell? = some cell →
    ∃ v, cellValue f line field cell = .ok v ∧ after = some v
  /-- Without a cell it holds what it has held before. -/
  kept : rest? ≠ some field → cell? = none → after = before

namespace Filled

variable {rest? : Option Field} {cell? : Option String} {before after : Option Value}

theorem refl (before : Option Value) : Filled f line field none none before before :=
  ⟨(fun h => nomatch h), fun _ => .inl rfl, (fun _ _ _ h => nomatch h), fun _ _ => rfl⟩

/-- A cell before all others of its field. -/
theorem behind {cell : String} {v : Value} (hv : cellValue f line field cell = .ok v)
    (h : Filled f line field rest? cell? ((if v.isNothing then none else some v).or before) after) :
    Filled f line field rest? (cell?.or (some cell)) before after where
  rest := h.rest
  fits hne := by
    rcases h.fits hne with hafter | hafter
    · cases hn : v.isNothing with
      | true => rw [hn] at hafter; exact .inl hafter
      | false => rw [hn] at hafter; exact .inr ⟨v, hafter, ofCell_of_cellValue hv⟩
    · exact .inr hafter
  cell hne ho cell' hcell := by
    cases hcell? : cell? with
    | some cell'' =>
      rw [hcell?] at hcell
      cases hcell
      exact h.cell hne ho _ hcell?
    | none =>
      rw [hcell?] at hcell
      cases hcell
      -- what cannot be left open is not read as nothing
      have hn : v.isNothing = false := isNothing_of_ofCell (ofCell_of_cellValue hv) ho
      have hafter := h.kept hne hcell?
      rw [hn] at hafter
      exact ⟨v, hv, hafter⟩
  kept _ hnone := by cases cell? <;> cases hnone

end Filled

/-- **What the columns of a header make of every field.** -/
theorem filled_of_fieldsOf {given table : Table Field Value} {columns cells : List String}
    (h : (fieldsOf f line kind given columns cells).result = .ok table) (field : Field) :
    Filled f line field (restField? f kind columns) (plainCell? f kind field columns cells)
      (given.get? field) (table.get? field) := by
  induction columns generalizing given cells with
  | nil =>
    cases h
    exact .refl _
  | cons name columns ih =>
    rw [restField?, plainCell?]
    rcases fieldsOf_cons h with ⟨hnone, h⟩ | ⟨field', takesRest, o, hsome, hvalue, h⟩
    · -- a column that stands for nothing
      simp only [hnone, reduceCtorEq, if_false, Option.or_none]
      exact ih h
    · have hafter := ih h
      rw [get?_elim_insert] at hafter
      cases takesRest with
      | true =>
        -- no column is left
        obtain rfl := List.isEmpty_iff.mp (takesRest_of_standing? hsome rfl)
        obtain ⟨items, rfl, hitems⟩ := row_of_columnValue hvalue
        have hlast := hafter.kept (by rintro ⟨⟩) rfl
        simp only [hsome, Option.some.injEq, Prod.mk.injEq, Bool.true_eq_false, and_false, if_false,
          Option.or_none, plainCell?]
        by_cases hf : field = field'
        · subst hf
          rw [if_pos rfl] at hlast
          exact ⟨fun _ => ⟨items, hlast, hitems⟩, fun h => absurd rfl h, fun h => absurd rfl h,
            fun h => absurd rfl h⟩
        · rw [if_neg hf] at hlast
          rw [hlast]
          exact ⟨fun h => absurd (Option.some.inj h).symm hf, fun _ => .inl rfl,
            (by rintro _ _ _ ⟨⟩), fun _ _ => rfl⟩
      | false =>
        simp only [hsome, Option.some.injEq, Prod.mk.injEq, and_true]
        by_cases hf : field = field'
        · subst hf
          rw [if_pos rfl] at hafter ⊢
          have hcell := cell_of_columnValue hvalue
          cases cells with
          | nil =>
            cases hcell
            rw [List.head?_nil, Option.or_none]
            exact hafter
          | cons cell rest =>
            obtain ⟨v, hv, rfl⟩ := hcell
            exact hafter.behind hv
        · rw [if_neg hf] at hafter
          rw [if_neg (Ne.symm hf), Option.or_none]
          exact hafter

/-! ## Calls -/

/-- What the columns of a header and the cells of a line have to be like for the call of the line to
be of the declared types. -/
structure Fits (f : SheetFormat) (kind : Kind) (columns cells : List String) : Prop where
  /-- Only arguments take the rest of a line. -/
  rest : ∀ field, restField? f kind columns = some field → field = .args
  /-- Arguments take it, if they are given at all. -/
  args : ∀ cell, plainCell? f kind .args columns cells = some cell →
    restField? f kind columns = some .args
  /-- The name in a binding call does not begin with the marker. -/
  name : kind = .binding → ∀ cell, plainCell? f kind .name columns cells = some cell →
    referred? f cell = .ok none

variable {columns cells : List String} {c : Call}

/-- A call is made of what the columns of a header make of its fields. -/
structure Made (f : SheetFormat) (line : Nat) (columns cells : List String) (c : Call)
    (given : Field → Option Value) : Prop where
  value : ∀ field ∈ c.kind.fields, c.value field = (given field).getD (c.kind.usual field)
  required : ∀ field ∈ c.kind.required, (given field).isSome
  filled : ∀ field, Filled f line field (restField? f c.kind columns)
    (plainCell? f c.kind field columns cells) none (given field)

theorem made_of_callOf {tag : String} (h : (callOf f line tag columns cells).result = .ok c) :
    ∃ given, Made f line (columns.drop 1) (cells.drop 1) c given := by
  rw [callOf] at h
  split at h
  · cases h
  · next kind hkind =>
    obtain ⟨given, hgiven, h⟩ := Reading.bind_eq_ok.mp h
    split at h
    · next c' hc =>
      cases h
      obtain ⟨rfl, hrequired⟩ := Call.ofFields_eq_ok hc
      have hk := Call.kind_ofGiven kind given.get?
      exact ⟨given.get?, by rw [hk]; exact fun _ => Call.value_ofGiven, by rwa [hk],
        by rw [hk]; exact filled_of_fieldsOf hgiven⟩
    · cases h

namespace Made

variable {given : Field → Option Value}

/-- The field that takes the rest holds a row of what the cells are read as. -/
theorem value_of_rest (h : Made f line columns cells c given)
    (hrest : restField? f c.kind columns = some field) :
    ∃ items, c.value field = .row items ∧ ∀ v ∈ items, ofCell field v = true := by
  obtain ⟨items, hgiven, hitems⟩ := (h.filled field).rest hrest
  refine ⟨items, ?_, hitems⟩
  rw [h.value field (mem_fields_of_restField? hrest), hgiven, Option.getD_some]

/-- A field that no cell leaves open holds what its last cell is read as. -/
theorem value_of_cell (h : Made f line columns cells c given)
    (hrest : restField? f c.kind columns ≠ some field) (ho : isOptional field = false)
    {cell : String} (hcell : plainCell? f c.kind field columns cells = some cell) :
    cellValue f line field cell = .ok (c.value field) := by
  obtain ⟨v, hv, hgiven⟩ := (h.filled field).cell hrest ho cell hcell
  rw [h.value field (mem_fields_of_plainCell? hcell), hgiven, Option.getD_some]
  exact hv

/-- A field that neither takes the rest nor has a cell of its own holds what is usual, and may do
so. -/
theorem value_of_none (h : Made f line columns cells c given) (hmem : field ∈ c.kind.fields)
    (hnone : given field = none) : c.kind.declares field (c.value field) = true := by
  have hreq : field ∉ c.kind.required := by
    intro hreq
    have hsome := h.required field hreq
    rw [hnone] at hsome
    cases hsome
  rw [h.value field hmem, hnone, Option.getD_none]
  exact Kind.declares_usual hmem hreq

theorem fits (h : Made f line columns cells c given) (htyped : c.wellTyped = true) :
    Fits f c.kind columns cells := by
  rw [Call.wellTyped_iff] at htyped
  have hrest : ∀ field, restField? f c.kind columns = some field → field = .args := by
    intro field hfield
    obtain ⟨items, hvalue, hitems⟩ := h.value_of_rest hfield
    have hd := htyped field (mem_fields_of_restField? hfield)
    rw [hvalue] at hd
    exact (declares_row hitems).mp hd
  refine ⟨hrest, fun cell hcell => ?_, fun hb cell hcell => ?_⟩
  · -- one cell of arguments would be no row
    refine Classical.byContradiction fun hne => ?_
    have hrow : (c.value .args).isTextRow = true := htyped .args (mem_fields_of_plainCell? hcell)
    have hof := ofCell_of_cellValue (h.value_of_cell hne rfl hcell)
    rw [not_isTextRow_of_ofCell hof] at hrow
    cases hrow
  · have hmem := mem_fields_of_plainCell? hcell
    have hne : restField? f c.kind columns ≠ some .name := fun hname =>
      absurd (hrest .name hname) (by decide)
    have hv := h.value_of_cell hne rfl hcell
    have htext := (declares_name hmem (ofCell_of_cellValue hv)).mp (htyped .name hmem) hb
    exact (isText_of_cellValue (by decide) rfl rfl hv).mp htext

theorem wellTyped (h : Made f line columns cells c given) (hfits : Fits f c.kind columns cells) :
    c.wellTyped = true := by
  rw [Call.wellTyped_iff]
  intro field hmem
  by_cases htakes : restField? f c.kind columns = some field
  · obtain ⟨items, hvalue, hitems⟩ := h.value_of_rest htakes
    rw [hvalue]
    exact (declares_row hitems).mpr (hfits.rest field htakes)
  · rcases (h.filled field).fits htakes with hnone | ⟨v, hgiven, hv⟩
    · exact h.value_of_none hmem hnone
    · have hvalue : c.value field = v := by rw [h.value field hmem, hgiven, Option.getD_some]
      have hkept := (h.filled field).kept htakes
      cases hcell : plainCell? f c.kind field columns cells with
      | none =>
        rw [hgiven] at hkept
        cases hkept hcell
      | some cell =>
        by_cases ha : field = .args
        · subst ha
          exact absurd (hfits.args cell hcell) htakes
        · by_cases hn : field = .name
          · subst hn
            have hread := h.value_of_cell htakes rfl hcell
            refine (declares_name hmem (by rwa [hvalue])).mpr fun hb => ?_
            exact (isText_of_cellValue (by decide) rfl rfl hread).mpr (hfits.name hb cell hcell)
          · rw [declares_eq_ofCell hn ha, hvalue]
            exact hv

end Made

/-- **Which calls are of the declared types**, by their columns and cells. -/
theorem wellTyped_of_callOf {tag : String} (h : (callOf f line tag columns cells).result = .ok c) :
    c.wellTyped = true ↔ Fits f c.kind (columns.drop 1) (cells.drop 1) := by
  obtain ⟨given, hmade⟩ := made_of_callOf h
  exact ⟨hmade.fits, hmade.wellTyped⟩

end Sheet

/-- A call with a text for a memo has a label. -/
theorem Call.exists_label {c : Call} (h : c.wellTyped = true) : ∃ s, c.label = .ok s := by
  rw [wellTyped_iff] at h
  have hmem : .memo ∈ c.kind.fields := by cases c.kind <;> decide
  have hvalue : c.value .memo = c.memo := by cases c <;> rfl
  have hmemo : c.memo.isText = true := hvalue ▸ h .memo hmem
  rw [label]
  cases hm : c.memo with
  | text s => exact ⟨_, rfl⟩
  | _ => rw [hm] at hmemo; cases hmemo

namespace Sheet

/-- **Which calls of a sheet are of the declared types.** Every call that a text is read as comes from
a line and from the last header of its kind before it, and it is of the declared types just where the
two fit: where only arguments take the rest of the line, take it if they are given, and the name in
a binding call is no reference. A call of the declared types has a label. -/
theorem wellTyped_iff_fits {f : SheetFormat} {text : String} {calls : List Call}
    (h : (parse f text).result = .ok calls) :
    ∀ c ∈ calls, ∃ before raw after columns cells,
      Text.lines text = before ++ raw :: after ∧ IsCallOfLine f before raw columns cells c ∧
        (c.wellTyped = true ↔ Fits f c.kind (columns.drop 1) (cells.drop 1)) ∧
        (c.wellTyped = true → ∃ s, c.label = .ok s) := by
  intro c hc
  obtain ⟨before, raw, after, columns, cells, hlines, hcall⟩ := isCallOfLine_of_parse h hc
  exact ⟨before, raw, after, columns, cells, hlines, hcall, wellTyped_of_callOf hcall.call,
    Call.exists_label⟩

/-- A text with the calls that it is read as, given which of them are of the declared types. -/
theorem exists_read {text : String} {types : List Bool}
    (h : (parse .usual text).result.toOption.map (·.map Call.wellTyped) = some types) :
    ∃ calls, (parse .usual text).result = .ok calls ∧ calls.map Call.wellTyped = types := by
  cases hread : (parse .usual text).result with
  | error e => rw [hread] at h; cases h
  | ok calls =>
    rw [hread] at h
    exact ⟨calls, rfl, Option.some.inj h⟩

/-- A sheet with the same line twice, below a header whose arguments do not take the rest and below
one whose arguments do. -/
def argsBothWays : String :=
  "H,F,Memo,Name,Args\nF,1,bearingToDegrees,N45 0 0E\n" ++
    "H,F,Memo,Name,Args...\nF,1,bearingToDegrees,N45 0 0E\n"

theorem wellTyped_iff_fits_argsBothWays :
    ∃ calls, (parse .usual argsBothWays).result = .ok calls ∧
      calls.map Call.wellTyped = [false, true] ∧
      ∀ c ∈ calls, ∃ before raw after columns cells,
        Text.lines argsBothWays = before ++ raw :: after ∧
          IsCallOfLine .usual before raw columns cells c ∧
          (c.wellTyped = true ↔ Fits .usual c.kind (columns.drop 1) (cells.drop 1)) ∧
          (c.wellTyped = true → ∃ s, c.label = .ok s) := by
  obtain ⟨calls, hcalls, htypes⟩ :
      ∃ calls, (parse .usual argsBothWays).result = .ok calls ∧
        calls.map Call.wellTyped = [false, true] := exists_read (by decide +kernel)
  exact ⟨calls, hcalls, htypes, wellTyped_iff_fits hcalls⟩

/-- A sheet whose header declares arguments that do not take the rest. -/
def argsWithoutRest : String := "H,F,Memo,Name,Args\nF,1,bearingToDegrees,N45 0 0E\n"

/-- A sheet may be read as calls that are not of the declared types: here the one argument stands
where a row of arguments belongs. -/
theorem not_wellTyped_argsWithoutRest :
    ¬ ∀ (f : SheetFormat) (text : String) (calls : List Call),
      (parse f text).result = .ok calls → ∀ c ∈ calls, c.wellTyped = true := by
  intro h
  obtain ⟨calls, hcalls, htypes⟩ :
      ∃ calls, (parse .usual argsWithoutRest).result = .ok calls ∧
        calls.map Call.wellTyped = [false] := exists_read (by decide +kernel)
  have hmem : false ∈ calls.map Call.wellTyped := htypes ▸ List.mem_singleton_self false
  obtain ⟨c, hc, hfalse⟩ := List.mem_map.mp hmem
  exact Bool.false_ne_true (hfalse.symm.trans (h .usual argsWithoutRest calls hcalls c hc))

end Sheet

end MetesBounds
