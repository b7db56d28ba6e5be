import MetesBounds.Proofs.Calculation
import MetesBounds.Sheet

/-!
# `Sheet/Columns` — what the call of a data line holds

The call of a data line is made field by field: a column gives its field what its cell says, or all
cells from its own on, and a later column of the same field counts. Where no field has two columns,
no column comes in the way of another, so the call can be described column by column, whatever their
order. `Sheet.Says` is what a cell says for a field, and `Sheet.Holds` what a call holds.

Main statement: `Sheet.holds_of_callOf`.
-/

set_option autoImplicit false

namespace MetesBounds

/-! ## Calls by field -/

/-- What a call holds in a field; nothing where it has no such field. -/
def Call.value (c : Call) (f : Field) : Value := (Table.find? f c.entries).getD .nothing

/-- What a call of a kind holds in a field that is not given. -/
def Kind.usual (k : Kind) (f : Field) : Value := (Call.ofGiven k fun _ => none).value f

namespace Call

variable {k : Kind} {given : Field → Option Value} {f : Field}

theorem kind_ofGiven (k : Kind) (given : Field → Option Value) : (ofGiven k given).kind = k := by
  cases k <;> rfl

/-- A call holds what it is given. -/
theorem value_ofGiven (hf : f ∈ k.fields) :
    (ofGiven k given).value f = (given f).getD (k.usual f) := by
  cases k <;> simp only [Kind.fields, List.mem_cons, List.not_mem_nil, or_false] at hf
  case point => rcases hf with rfl | rfl | rfl <;> rfl
  case line => rcases hf with rfl | rfl | rfl | rfl <;> rfl
  case curve => rcases hf with rfl | rfl | rfl | rfl | rfl | rfl <;> rfl
  case procedure => rcases hf with rfl | rfl | rfl <;> rfl
  case binding => rcases hf with rfl | rfl <;> rfl

/-- A call is made of given fields just where every required one is among them. -/
theorem ofFields_eq_ok {c : Call} (h : ofFields k given = .ok c) :
    c = ofGiven k given ∧ ∀ f ∈ k.required, (given f).isSome := by
  rw [ofFields] at h
  split at h
  · next hmissing =>
    cases h
    refine ⟨rfl, fun f hf => ?_⟩
    rw [missing, List.map_eq_nil_iff, List.filter_eq_nil_iff] at hmissing
    have hnone := hmissing f hf
    rwa [Bool.not_eq_true, Option.isNone_eq_false_iff] at hnone
  · cases h

end Call

/-- The suffix of columns that take the rest, where it is a text. -/
def SheetFormat.suffix (f : SheetFormat) : String :=
  match f.restSuffix with
  | .text suffix => suffix
  | _ => ""

theorem SheetFormat.suffix_eq {f : SheetFormat} {suffix : String}
    (h : f.restSuffix = .text suffix) : f.suffix = suffix := by
  rw [SheetFormat.suffix, h]

/-- Items of two lists stand in a relation, one by one. -/
def Paired {α β : Type} (R : α → β → Prop) (as : List α) (bs : List β) : Prop :=
  as.length = bs.length ∧ ∀ p ∈ as.zip bs, R p.1 p.2

namespace Paired

variable {α β : Type} {R : α → β → Prop}

theorem nil : Paired R [] [] := ⟨rfl, fun _ h => nomatch h⟩

theorem cons {as : List α} {bs : List β} (h : Paired R as bs) {a : α} {b : β} (hab : R a b) :
    Paired R (a :: as) (b :: bs) := by
  refine ⟨congrArg Nat.succ h.1, fun p hp => ?_⟩
  rcases List.mem_cons.mp hp with rfl | hp
  · exact hab
  · exact h.2 p hp

end Paired

namespace Sheet

/-- An open field holds nothing unless it is given. -/
theorem usual_of_isOptional {field : Field} (h : isOptional field = true) (k : Kind) :
    k.usual field = .nothing := by
  cases field <;> first | (cases k <;> rfl) | cases h

namespace Reading

variable {α β : Type} {r : Reading α} {f : α → Reading β}

theorem result_bind (r : Reading α) (f : α → Reading β) :
    (r.bind f).result = r.result >>= fun a => (f a).result := by
  rw [Reading.bind]
  cases r.result <;> rfl

theorem bind_eq_ok {b : β} :
    (r.bind f).result = .ok b ↔ ∃ a, r.result = .ok a ∧ (f a).result = .ok b := by
  rw [result_bind, MetesBounds.bind_eq_ok]

theorem bind_eq_error {err : Error} :
    (r.bind f).result = .error err ↔
      r.result = .error err ∨ ∃ a, r.result = .ok a ∧ (f a).result = .error err := by
  rw [result_bind, MetesBounds.bind_eq_error]

end Reading

/-! ## Cells -/

/-- A cell refers to a name: it is the name behind the marker. -/
def Refers (marker cell name : String) : Prop := marker ≠ "" ∧ cell = marker ++ name

/-- What a cell says for a field. A memo is text as it stands. In any other field a cell that begins
with the marker refers to the rest of it, an empty cell may leave the field open, and what remains is
a number or text. -/
inductive Says (marker : String) : Field → String → Value → Prop
  | memo (cell : String) : Says marker .memo cell (.text cell)
  | reference {field : Field} (hf : field ≠ .memo) {cell name : String}
    (hn : Refers marker cell name) : Says marker field cell (.reference name)
  | empty {field : Field} (hf : isOptional field = true) : Says marker field "" .nothing
  | number {field : Field} (hf : isNumeric field = true) {cell : String}
    (hn : ∀ name, ¬Refers marker cell name) (ho : isOptional field = true → cell ≠ "") {x : Float}
    (hx : Decimal.read? cell = some x) : Says marker field cell (.ofFloat x)
  | text {field : Field} (hm : field ≠ .memo) (hf : isNumeric field = false) {cell : String}
    (hn : ∀ name, ¬Refers marker cell name) (ho : isOptional field = true → cell ≠ "") :
    Says marker field cell (.text cell)

section Cells

variable {f : SheetFormat} {marker : String} {line : Nat} {field : Field}

/-- A cell is read as what it says. -/
theorem says_of_cellValue (hm : f.marker = .text marker) {cell : String} {v : Value}
    (h : cellValue f line field cell = .ok v) : Says marker field cell v := by
  rw [cellValue, referred?, hm] at h
  split at h
  · next hmemo =>
    cases hmemo
    cases h
    exact .memo cell
  · next hmemo =>
    obtain ⟨name?, hname?, hsaid⟩ := bind_eq_ok.mp h
    cases hname?
    split at hsaid
    · next name hname =>
      cases hsaid
      exact .reference hmemo (Value.nameIn?_eq_some.mp hname)
    · next hnone =>
      have hn : ∀ name, ¬Refers marker cell name := by
        intro name hname
        rw [Value.nameIn?_eq_some.mpr hname] at hnone
        cases hnone
      split at hsaid
      · next hopen =>
        rw [Bool.and_eq_true, String.isEmpty_iff] at hopen
        obtain ⟨ho, rfl⟩ := hopen
        cases hsaid
        exact .empty ho
      · next hopen =>
        have ho : isOptional field = true → cell ≠ "" := by
          rintro ho rfl
          exact hopen (by rw [ho]; rfl)
        split at hsaid
        · next hf =>
          split at hsaid
          · next x hx =>
            cases hsaid
            exact .number hf hn ho hx
          · cases hsaid
        · next hf =>
          cases hsaid
          exact .text hmemo (Bool.eq_false_iff.mpr hf) hn ho

/-- Only an open field can be said nothing for. -/
theorem Says.isOptional_of_nothing {cell : String} (h : Says marker field cell .nothing) :
    isOptional field = true := by
  cases h with
  | empty hf => exact hf

/-- Cells that begin with those of a column's own, without the empty ones at the end. -/
structure Rest (cells kept : List String) : Prop where
  append : ∃ n, cells = kept ++ List.replicate n ""
  last : kept.getLast? ≠ some ""

theorem rest_dropEmptyEnd (cells : List String) : Rest cells (dropEmptyEnd cells) := by
  have hsplit : cells = dropEmptyEnd cells ++ (cells.reverse.takeWhile String.isEmpty).reverse := by
    rw [dropEmptyEnd, ← List.reverse_append, List.takeWhile_append_dropWhile, List.reverse_reverse]
  refine ⟨⟨_, hsplit.trans (congrArg _ (List.eq_replicate_iff.mpr ⟨rfl, fun cell hcell => ?_⟩))⟩, ?_⟩
  · have hall := List.all_eq_true.mp (List.all_takeWhile (p := String.isEmpty) (l := cells.reverse))
    exact String.isEmpty_iff.mp (hall cell (List.mem_reverse.mp hcell))
  · intro hlast
    rw [dropEmptyEnd, List.getLast?_reverse] at hlast
    have hnot := List.head?_dropWhile_not String.isEmpty cells.reverse
    rw [hlast] at hnot
    cases hnot

/-- Cells are read as what they say, one by one. -/
theorem paired_of_mapM (hm : f.marker = .text marker) {cells : List String} {vs : List Value}
    (h : cells.mapM (cellValue f line field) = .ok vs) : Paired (Says marker field) cells vs := by
  have hread := (forall₂_of_mapM h).imp fun _ _ => says_of_cellValue hm
  exact ⟨hread.length_eq, fun _ hp => (List.forall₂_iff_zip.mp hread).2 hp⟩

end Cells

/-! ## Columns -/

section Columns

variable {f : SheetFormat} {marker suffix : String} {line : Nat} {kind : Kind}

/-- The field of a kind that a column of a header stands for, and whether it takes all cells that
are left. Only the last column may do so; its name is then what precedes the suffix, and nothing at
all where the suffix is empty. -/
def standing? (suffix : String) (kind : Kind) (isLast : Bool) (column : String) :
    Option (Field × Bool) :=
  match if isLast then Text.beforeEnd? suffix column else none with
  | some name => (kind.fieldOf? (columnField (if suffix.isEmpty then "" else name))).map (·, true)
  | none => (kind.fieldOf? (columnField column)).map (·, false)

/-- What the column at a position stands for. -/
def columnAt? (suffix : String) (kind : Kind) (columns : List String) (i : Nat) :
    Option (Field × Bool) :=
  columns[i]?.bind (standing? suffix kind (i + 1 == columns.length))

/-- The fields that the columns of a header stand for, in order. -/
def namedFields (suffix : String) (kind : Kind) : List String → List Field
  | [] => []
  | name :: columns =>
    ((standing? suffix kind columns.isEmpty name).map Prod.fst).toList ++
      namedFields suffix kind columns

/-- No field of a kind has two columns. -/
def Distinct (suffix : String) (kind : Kind) (columns : List String) : Prop :=
  (namedFields suffix kind columns).Nodup

instance (suffix : String) (kind : Kind) (columns : List String) :
    Decidable (Distinct suffix kind columns) :=
  inferInstanceAs (Decidable (List.Nodup _))

theorem columnAt?_zero (name : String) (columns : List String) :
    columnAt? suffix kind (name :: columns) 0 = standing? suffix kind columns.isEmpty name := by
  cases columns <;> rfl

theorem columnAt?_succ (name : String) (columns : List String) (i : Nat) :
    columnAt? suffix kind (name :: columns) (i + 1) = columnAt? suffix kind columns i := by
  have hlast : (i + 1 + 1 == columns.length + 1) = (i + 1 == columns.length) := by
    rw [Bool.eq_iff_iff, beq_iff_eq, beq_iff_eq]
    omega
  rw [columnAt?, columnAt?, List.getElem?_cons_succ, List.length_cons, hlast]

theorem mem_namedFields {columns : List String} {i : Nat} {field : Field} {takesRest : Bool}
    (h : columnAt? suffix kind columns i = some (field, takesRest)) :
    field ∈ namedFields suffix kind columns := by
  induction columns generalizing i with
  | nil => cases h
  | cons name columns ih =>
    rw [namedFields, List.mem_append]
    cases i with
    | zero =>
      rw [columnAt?_zero] at h
      rw [h]
      exact .inl List.mem_cons_self
    | succ i =>
      rw [columnAt?_succ] at h
      exact .inr (ih h)

theorem Distinct.tail {name : String} {columns : List String}
    (h : Distinct suffix kind (name :: columns)) : Distinct suffix kind columns :=
  (List.nodup_append.mp h).2.1

/-- The field of the first column is that of no other one. -/
theorem Distinct.ne {name : String} {columns : List String}
    (h : Distinct suffix kind (name :: columns)) {field field' : Field} {takesRest takesRest' : Bool}
    (h₀ : columnAt? suffix kind (name :: columns) 0 = some (field, takesRest)) {i : Nat}
    (hi : columnAt? suffix kind columns i = some (field', takesRest')) : field' ≠ field := by
  rw [columnAt?_zero] at h₀
  rw [Distinct, namedFields, h₀] at h
  exact ((List.nodup_append.mp h).2.2 field List.mem_cons_self field' (mem_namedFields hi)).symm

/-- A column stands for the field, or for none, that its name is looked up as. -/
theorem standing?_of_columnOf {isLast : Bool} {name : String} {column : Column}
    (h : columnOf f isLast name = .ok column) :
    standing? f.suffix kind isLast name =
      (kind.fieldOf? (columnField column.name)).map (·, column.takesRest) := by
  rw [columnOf] at h
  rw [standing?]
  cases isLast with
  | false =>
    cases h
    rfl
  | true =>
    rw [if_pos rfl] at h ⊢
    split at h
    · next suffix hs =>
      rw [SheetFormat.suffix_eq hs]
      cases hstem : Text.beforeEnd? suffix name with
      | none =>
        rw [hstem] at h
        cases h
        rfl
      | some stem =>
        rw [hstem] at h
        cases h
        rfl
    · cases h

/-- A column stands for a field that the kind has. -/
theorem mem_fields_of_standing? {isLast takesRest : Bool} {name : String} {field : Field}
    (h : standing? suffix kind isLast name = some (field, takesRest)) : field ∈ kind.fields := by
  rw [standing?] at h
  split at h
  all_goals
    obtain ⟨field', hfield, heq⟩ := Option.map_eq_some_iff.mp h
    cases heq
    exact List.mem_of_find?_eq_some hfield

/-- What a column gives its field, from the cells from its own on. -/
inductive Gives (marker : String) (field : Field) : Bool → List String → Option Value → Prop
  | missing : Gives marker field false [] none
  | empty {cell : String} {rest : List String} (h : Says marker field cell .nothing) :
    Gives marker field false (cell :: rest) none
  | cell {cell : String} {rest : List String} {v : Value} (h : Says marker field cell v) :
    Gives marker field false (cell :: rest) (some v)
  | rest {cells kept : List String} {values : List Value} (hr : Rest cells kept)
    (h : Paired (Says marker field) kept values) : Gives marker field true cells (some (.row values))

theorem gives_of_columnValue (hm : f.marker = .text marker) {field : Field} {takesRest : Bool}
    {cells : List String} {o : Option Value}
    (h : columnValue f line field takesRest cells = .ok o) :
    Gives marker field takesRest cells o := by
  unfold columnValue at h
  cases takesRest with
  | true =>
    rw [if_pos rfl] at h
    obtain ⟨values, hvalues, h⟩ := bind_eq_ok.mp h
    cases h
    exact .rest (rest_dropEmptyEnd cells) (paired_of_mapM hm hvalues)
  | false =>
    rw [if_neg Bool.false_ne_true] at h
    cases cells with
    | nil =>
      cases h
      exact .missing
    | cons cell rest =>
      obtain ⟨v, hv, h⟩ := bind_eq_ok.mp h
      have hsays := says_of_cellValue hm hv
      split at h
      · cases h
        exact .empty hsays
      · cases h
        exact .cell hsays

/-- The first of some columns stands for nothing and is passed over, or gives its field what it
gives. -/
theorem fieldsOf_cons {given table : Table Field Value} {name : String} {columns cells : List String}
    (h : (fieldsOf f line kind given (name :: columns) cells).result = .ok table) :
    (standing? f.suffix kind columns.isEmpty name = none ∧
      (fieldsOf f line kind given columns (cells.drop 1)).result = .ok table) ∨
    ∃ field takesRest o, standing? f.suffix kind columns.isEmpty name = some (field, takesRest) ∧
      columnValue f line field takesRest cells = .ok o ∧
      (fieldsOf f line kind (o.elim given (given.insert field)) columns (cells.drop 1)).result =
        .ok table := by
  rw [fieldsOf] at h
  cases hcolumn : columnOf f columns.isEmpty name with
  | error e =>
    rw [hcolumn] at h
    cases h
  | ok column =>
    rw [standing?_of_columnOf hcolumn]
    simp only [hcolumn] at h
    cases hfield : kind.fieldOf? (columnField column.name) with
    | none =>
      simp only [hfield] at h
      exact .inl ⟨rfl, h⟩
    | some field =>
      simp only [hfield] at h
      cases hvalue : columnValue f line field column.takesRest cells with
      | error e =>
        rw [hvalue] at h
        cases h
      | ok o =>
        simp only [hvalue] at h
        refine .inr ⟨field, column.takesRest, o, rfl, hvalue, ?_⟩
        cases o <;> exact h

/-- What a column gives goes to its field, and to no other. -/
theorem get?_elim_insert (o : Option Value) (given : Table Field Value) (field field' : Field) :
    (o.elim given (given.insert field)).get? field' =
      if field' = field then o.or (given.get? field') else given.get? field' := by
  cases o with
  | none => rw [Option.none_or, ite_self]; rfl
  | some v => rw [Option.some_or]; exact Table.get?_insert _ _ _ _

/-- **What the columns of a header give**, where no field has two of them: a field with a column is
given what that column gives it, and no other field is given anything. -/
theorem get?_of_fieldsOf (hm : f.marker = .text marker) {given table : Table Field Value}
    {columns cells : List String} (hd : Distinct f.suffix kind columns)
    (h : (fieldsOf f line kind given columns cells).result = .ok table) :
    (∀ i field takesRest, columnAt? f.suffix kind columns i = some (field, takesRest) →
      ∃ o, Gives marker field takesRest (cells.drop i) o ∧
        table.get? field = o.or (given.get? field)) ∧
    ∀ field, (∀ i takesRest, columnAt? f.suffix kind columns i ≠ some (field, takesRest)) →
      table.get? field = given.get? field := by
  induction columns generalizing given cells with
  | nil =>
    cases h
    exact ⟨(fun i field takesRest h => nomatch h), fun _ _ => rfl⟩
  | cons name columns ih =>
    rcases fieldsOf_cons h with ⟨hnone, h⟩ | ⟨field, takesRest, o, hsome, hvalue, h⟩
    · -- a first column that stands for nothing: the others are one place further on
      rw [← columnAt?_zero] at hnone
      obtain ⟨hcolumn, hother⟩ := ih hd.tail h
      refine ⟨fun i field takesRest hi => ?_, fun field hfield => hother field fun i takesRest => ?_⟩
      · cases i with
        | zero =>
          rw [hnone] at hi
          cases hi
        | succ i =>
          rw [columnAt?_succ] at hi
          obtain ⟨o, ho, htable⟩ := hcolumn i field takesRest hi
          rw [List.drop_drop] at ho
          exact ⟨o, by rwa [Nat.add_comm], htable⟩
      · rw [← columnAt?_succ name]
        exact hfield (i + 1) takesRest
    · rw [← columnAt?_zero] at hsome
      obtain ⟨hcolumn, hother⟩ := ih hd.tail h
      simp only [get?_elim_insert] at hcolumn hother
      refine ⟨fun i field' takesRest' hi => ?_, fun field' hfield => ?_⟩
      · cases i with
        | zero =>
          rw [hsome] at hi
          cases hi
          refine ⟨o, gives_of_columnValue hm hvalue, ?_⟩
          -- what it gives stays, as no later column has its field
          have hlater : ∀ i takesRest,
              columnAt? f.suffix kind columns i ≠ some (field, takesRest) := by
            intro i takesRest hi
            exact hd.ne hsome hi rfl
          rw [hother field hlater, if_pos rfl]
        | succ i =>
          rw [columnAt?_succ] at hi
          have hne' : field' ≠ field := hd.ne hsome hi
          obtain ⟨o', ho, htable⟩ := hcolumn i field' takesRest' hi
          rw [List.drop_drop] at ho
          rw [if_neg hne'] at htable
          exact ⟨o', by rwa [Nat.add_comm], htable⟩
      · have hne' : field' ≠ field := by
          rintro rfl
          exact hfield 0 takesRest hsome
        have hlater : ∀ i takesRest,
            columnAt? f.suffix kind columns i ≠ some (field', takesRest) := by
          intro i takesRest
          rw [← columnAt?_succ name]
          exact hfield (i + 1) takesRest
        rw [hother field' hlater, if_neg hne']

end Columns

/-! ## Calls -/

section Calls

variable {f : SheetFormat} {marker suffix : String} {line : Nat} {kind : Kind}

/-- What the call of a data line holds, given the columns of its header and its own cells, without
the kind in front of either. -/
structure Holds (marker suffix : String) (kind : Kind) (columns cells : List String) (c : Call) :
    Prop where
  kind_eq : c.kind = kind
  /-- A column with a cell gives its field just what the cell says. -/
  cell : ∀ i field cell, columnAt? suffix kind columns i = some (field, false) →
    cells[i]? = some cell → Says marker field cell (c.value field)
  /-- A column that takes the rest gives its field what the cells from its own on say, each of them,
  up to the last one that is not empty. -/
  rest : ∀ i field, columnAt? suffix kind columns i = some (field, true) →
    ∃ kept values, Rest (cells.drop i) kept ∧ c.value field = .row values ∧
      Paired (Says marker field) kept values
  /-- A field whose column has no cell, or that has no column, holds what is usual. -/
  usual : ∀ field ∈ kind.fields, (∀ i takesRest,
    columnAt? suffix kind columns i = some (field, takesRest) →
      takesRest = false ∧ cells.length ≤ i) → c.value field = kind.usual field
  /-- A field that is required has a column, which takes the rest or has a cell. -/
  required : ∀ field ∈ kind.required, ∃ i takesRest,
    columnAt? suffix kind columns i = some (field, takesRest) ∧
      (takesRest = true ∨ i < cells.length)

/-- A column stands for a field that the kind has. -/
theorem mem_fields_of_columnAt? {columns : List String} {i : Nat} {field : Field} {takesRest : Bool}
    (h : columnAt? suffix kind columns i = some (field, takesRest)) : field ∈ kind.fields := by
  obtain ⟨column, -, h⟩ := Option.bind_eq_some_iff.mp h
  exact mem_fields_of_standing? h

/-- The fields that the columns of a header fill, each with what its column gives. -/
structure Fills (marker suffix : String) (kind : Kind) (columns cells : List String)
    (given : Field → Option Value) : Prop where
  column : ∀ i field takesRest, columnAt? suffix kind columns i = some (field, takesRest) →
    Gives marker field takesRest (cells.drop i) (given field)
  other : ∀ field, (∀ i takesRest, columnAt? suffix kind columns i ≠ some (field, takesRest)) →
    given field = none

namespace Fills

variable {columns cells : List String} {given : Field → Option Value}

/-- A field whose column has no cell is not filled. -/
theorem eq_none (h : Fills marker suffix kind columns cells given) {field : Field}
    (hshort : ∀ i takesRest, columnAt? suffix kind columns i = some (field, takesRest) →
      takesRest = false ∧ cells.length ≤ i) : given field = none := by
  by_cases hex : ∃ i takesRest, columnAt? suffix kind columns i = some (field, takesRest)
  · obtain ⟨i, takesRest, hi⟩ := hex
    have hgives := h.column i field takesRest hi
    obtain ⟨rfl, hle⟩ := hshort i takesRest hi
    rw [List.drop_eq_nil_of_le hle] at hgives
    generalize given field = o at hgives ⊢
    cases hgives
    rfl
  · exact h.other field fun i takesRest hi => hex ⟨i, takesRest, hi⟩

/-- The call of the fields that are filled holds what their columns give. -/
theorem holds (h : Fills marker suffix kind columns cells given)
    (hrequired : ∀ field ∈ kind.required, (given field).isSome) :
    Holds marker suffix kind columns cells (.ofGiven kind given) where
  kind_eq := Call.kind_ofGiven kind given
  cell i field cell hi hcell := by
    obtain ⟨hlt, rfl⟩ := List.getElem?_eq_some_iff.mp hcell
    have hgives := h.column i field false hi
    rw [List.drop_eq_getElem_cons hlt] at hgives
    rw [Call.value_ofGiven (mem_fields_of_columnAt? hi)]
    generalize given field = o at hgives ⊢
    cases hgives with
    | empty hsays =>
      -- only a field that may be left open is given nothing, and nothing is what is usual for it
      rw [Option.getD_none, usual_of_isOptional hsays.isOptional_of_nothing]
      exact hsays
    | cell hsays => exact hsays
  rest i field hi := by
    have hgives := h.column i field true hi
    rw [Call.value_ofGiven (mem_fields_of_columnAt? hi)]
    generalize given field = o at hgives ⊢
    cases hgives with
    | rest hr hp => exact ⟨_, _, hr, rfl, hp⟩
  usual field hfield hshort := by
    rw [Call.value_ofGiven hfield, h.eq_none hshort, Option.getD_none]
  required field hfield := by
    refine Classical.byContradiction fun hno => ?_
    have hsome := hrequired field hfield
    have hshort : ∀ i takesRest, columnAt? suffix kind columns i = some (field, takesRest) →
        takesRest = false ∧ cells.length ≤ i := by
      intro i takesRest hi
      refine ⟨Bool.eq_false_iff.mpr fun htrue => hno ⟨i, takesRest, hi, .inl htrue⟩, ?_⟩
      exact Nat.le_of_not_lt fun hlt => hno ⟨i, takesRest, hi, .inr hlt⟩
    rw [h.eq_none hshort] at hsome
    cases hsome

end Fills

/-- **What the call of a data line holds**, where no field has two columns. -/
theorem holds_of_callOf (hm : f.marker = .text marker) (hs : f.suffix = suffix) {tag : String}
    {columns cells : List String} {c : Call}
    (hd : ∀ kind, Kind.ofTag? tag = some kind → Distinct suffix kind (columns.drop 1))
    (h : (callOf f line tag columns cells).result = .ok c) :
    ∃ kind, Kind.ofTag? tag = some kind ∧
      Holds marker suffix kind (columns.drop 1) (cells.drop 1) c := by
  subst hs
  rw [callOf] at h
  split at h
  · cases h
  · next kind hkind =>
    obtain ⟨given, hgiven, h⟩ := Reading.bind_eq_ok.mp h
    split at h
    · next c' hc =>
      cases h
      obtain ⟨rfl, hrequired⟩ := Call.ofFields_eq_ok hc
      obtain ⟨hcolumn, hother⟩ := get?_of_fieldsOf hm (hd kind hkind) hgiven
      simp only [Table.get?_empty, Option.or_none] at hcolumn hother
      have hfills : Fills marker f.suffix kind (columns.drop 1) (cells.drop 1) given.get? := by
        refine ⟨fun i field takesRest hi => ?_, hother⟩
        obtain ⟨o, hgives, htable⟩ := hcolumn i field takesRest hi
        rw [htable]
        exact hgives
      exact ⟨kind, hkind, hfills.holds hrequired⟩
    · cases h

end Calls

end Sheet

end MetesBounds
