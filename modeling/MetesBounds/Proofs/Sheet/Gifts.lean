import MetesBounds.Proofs.Calculation.Akin
import MetesBounds.Proofs.Sheet.Columns
import MetesBounds.Proofs.Sheet.Refusals

/-!
# `Sheet/Gifts` — columns and their cells, in any order

What a data line gives is the gifts of its columns, one after the other (`Sheet.gifts`), and where no
field has two columns it makes no difference in which order they are given. A column that does not
take the rest looks at its own name and its own cell alone. So columns that are put in another order
together with their cells give the same, and where one of them is at fault the line is so in either
order.

Main statement: `Sheet.akin_callOf_reorder`.
-/

set_option autoImplicit false

namespace MetesBounds

/-! ## Results in another order -/

theorem Akin.trans {α β γ : Type} {R : α → β → Prop} {S : β → γ → Prop} {T : α → γ → Prop}
    {x : Except Error α} {y : Except Error β} {z : Except Error γ} (h : Akin R x y) (h' : Akin S y z)
    (hT : ∀ a b c, R a b → S b c → T a c) : Akin T x z := by
  cases h with
  | ok h =>
    cases h' with
    | ok h' => exact .ok (hT _ _ _ h h')
  | error h =>
    cases h' with
    | error h' => exact .error (h.trans h')

/-- Results that are collected in another order come to the same, in that order, or both fail: over
different ones of them perhaps, but over things of one kind if all do. -/
theorem akin_mapM_id_of_perm {α : Type} {family : Family} {xs ys : List (Except Error α)}
    (hp : xs.Perm ys) (hf : ∀ x ∈ xs, FailsIn (·.family = family) x) :
    Akin List.Perm (xs.mapM id) (ys.mapM id) := by
  induction hp with
  | nil => exact .ok (.refl _)
  | cons x _ ih =>
    rw [List.forall_mem_cons] at hf
    rw [List.mapM_cons, List.mapM_cons]
    have hx : Akin Eq x x := .refl x
    exact hx.bind fun a _ hab => (ih hf.2).bind fun as bs h => .ok (hab ▸ h.cons a)
  | swap x y rest =>
    rw [List.forall_mem_cons, List.forall_mem_cons] at hf
    obtain ⟨hy, hx, -⟩ := hf
    simp only [List.mapM_cons, id]
    cases x with
    | error err =>
      cases y with
      | error err' => exact .error ((hy err' rfl).trans (hx err rfl).symm)
      | ok b => exact .error rfl
    | ok a =>
      cases y with
      | error err' => exact .error rfl
      | ok b =>
        cases rest.mapM id with
        | error err => exact .error rfl
        | ok as => exact .ok (.swap _ _ _)
  | trans h₁ _ ih₁ ih₂ =>
    exact (ih₁ hf).trans (ih₂ fun x hx => hf x (h₁.mem_iff.mpr hx)) fun _ _ _ h h' => h.trans h'

/-! ## Lists in another order -/

section Reorder

variable {α β : Type} {order : List Nat} {n : Nat}

/-- The items of a list at some positions, in the order of these. -/
def picked (order : List Nat) (l : List α) : List α := order.filterMap fun i => l[i]?

/-- The items of a list in another order, as far as it goes; those behind stay where they are. -/
def reorder (order : List Nat) (l : List α) : List α := picked order l ++ l.drop order.length

@[simp] theorem reorder_nil (l : List α) : reorder [] l = l := rfl

theorem map_reorder (f : α → β) (l : List α) : (reorder order l).map f = reorder order (l.map f) := by
  have hpicked : (picked order l).map f = picked order (l.map f) := by
    simp only [picked, List.map_filterMap, List.getElem?_map]
  rw [reorder, List.map_append, hpicked, List.map_drop, reorder]

theorem picked_range (n : Nat) (l : List α) : picked (List.range n) l = l.take n := by
  induction n with
  | zero => rfl
  | succ n ih =>
    rw [picked] at ih ⊢
    rw [List.range_succ, List.filterMap_append, ih, List.take_add_one]
    cases hn : l[n]? <;> simp [hn]

theorem picked_perm (ho : order.Perm (List.range n)) (l : List α) :
    (picked order l).Perm (l.take n) :=
  picked_range n l ▸ ho.filterMap _

/-- Two lists that are put in the same order are paired as they were before. -/
theorem zip_picked {l : List α} {l' : List β} (h : ∀ i ∈ order, i < l.length ∧ i < l'.length) :
    (picked order l).zip (picked order l') = picked order (l.zip l') := by
  induction order with
  | nil => rfl
  | cons i order ih =>
    rw [List.forall_mem_cons] at h
    obtain ⟨⟨hl, hl'⟩, h⟩ := h
    have hzip : i < (l.zip l').length := by
      rw [List.length_zip]
      exact Nat.lt_min.mpr ⟨hl, hl'⟩
    have hrest := ih h
    simp only [picked, List.filterMap_cons, List.getElem?_eq_getElem hl,
      List.getElem?_eq_getElem hl', List.getElem?_eq_getElem hzip, List.zip_cons_cons,
      List.getElem_zip] at hrest ⊢
    rw [hrest]

theorem length_picked (ho : order.Perm (List.range n)) {l : List α} (hn : n ≤ l.length) :
    (picked order l).length = n := by
  rw [(picked_perm ho l).length_eq, List.length_take, Nat.min_eq_left hn]

end Reorder

namespace Sheet

variable {f : SheetFormat} {marker suffix : String} {line : Nat} {kind : Kind}

/-! ## Gifts -/

/-- What a column gives, from the cells from its own on: a field and what it is to hold, or nothing. -/
def gift (f : SheetFormat) (line : Nat) (kind : Kind) (isLast : Bool) (name : String)
    (cells : List String) : Except Error (Option (Field × Value)) :=
  match columnOf f isLast name with
  | .error e => .error e
  | .ok column =>
    match kind.fieldOf? (columnField column.name) with
    | none => .ok none
    | some field => do return (← columnValue f line field column.takesRest cells).map (field, ·)

/-- What the columns of a header give, one after the other. -/
def gifts (f : SheetFormat) (line : Nat) (kind : Kind) :
    List String → List String → List (Except Error (Option (Field × Value)))
  | [], _ => []
  | name :: columns, cells =>
    gift f line kind columns.isEmpty name cells :: gifts f line kind columns (cells.drop 1)

/-- A table with what is given put in. -/
def fill (table : Table Field Value) : List (Option (Field × Value)) → Table Field Value
  | [] => table
  | none :: rest => fill table rest
  | some g :: rest => fill (table.insert g.1 g.2) rest

/-- The fields of a data line are filled with what its columns give. -/
theorem result_fieldsOf (table : Table Field Value) (columns cells : List String) :
    (fieldsOf f line kind table columns cells).result =
      (gifts f line kind columns cells).mapM id >>= fun gs => .ok (fill table gs) := by
  induction columns generalizing table cells with
  | nil => rfl
  | cons name columns ih =>
    rw [fieldsOf, gifts, List.mapM_cons, id, gift]
    cases hcolumn : columnOf f columns.isEmpty name with
    | error e => rfl
    | ok column =>
      dsimp only
      cases hfield : kind.fieldOf? (columnField column.name) with
      | none =>
        dsimp only
        rw [ih]
        cases (gifts f line kind columns (cells.drop 1)).mapM id <;> rfl
      | some field =>
        dsimp only
        cases hvalue : columnValue f line field column.takesRest cells with
        | error e => rfl
        | ok o =>
          cases o with
          | none =>
            dsimp only
            rw [ih]
            cases (gifts f line kind columns (cells.drop 1)).mapM id <;> rfl
          | some v =>
            dsimp only
            rw [ih]
            cases (gifts f line kind columns (cells.drop 1)).mapM id <;> rfl

/-- The fields that are given something are among those that the columns stand for, in order. -/
theorem sublist_namedFields {columns cells : List String} {gs : List (Option (Field × Value))}
    (h : (gifts f line kind columns cells).mapM id = .ok gs) :
    (gs.filterMap (Option.map Prod.fst)).Sublist (namedFields f.suffix kind columns) := by
  induction columns generalizing cells gs with
  | nil =>
    cases h
    exact .slnil
  | cons name columns ih =>
    rw [gifts, List.mapM_cons] at h
    obtain ⟨o, ho, h⟩ := bind_eq_ok.mp h
    obtain ⟨gs', hgs, h⟩ := bind_eq_ok.mp h
    cases h
    have hrest := ih hgs
    rw [namedFields]
    cases o with
    | none => exact hrest.trans (List.sublist_append_right _ _)
    | some g =>
      rw [id, gift] at ho
      cases hcolumn : columnOf f columns.isEmpty name with
      | error e => rw [hcolumn] at ho; cases ho
      | ok column =>
        rw [standing?_of_columnOf hcolumn]
        simp only [hcolumn] at ho
        cases hfield : kind.fieldOf? (columnField column.name) with
        | none => simp only [hfield] at ho; cases ho
        | some field =>
          simp only [hfield] at ho
          obtain ⟨o, -, ho⟩ := bind_eq_ok.mp ho
          obtain ⟨v, -, rfl⟩ := Option.map_eq_some_iff.mp (Except.ok.inj ho)
          exact hrest.cons_cons field

/-! ## Faults -/

/-- Whatever is wrong with a column's cells is a fault of the sheet. -/
theorem failsIn_of_mem_gifts (hm : f.marker = .text marker) (hs : f.restSuffix = .text suffix)
    {columns cells : List String} :
    ∀ x ∈ gifts f line kind columns cells, FailsIn (·.family = .sheet) x := by
  induction columns generalizing cells with
  | nil => exact fun x hx => nomatch hx
  | cons name columns ih =>
    rw [gifts, List.forall_mem_cons]
    refine ⟨?_, ih⟩
    obtain ⟨column, hcolumn⟩ := exists_columnOf hs columns.isEmpty name
    rw [gift, hcolumn]
    dsimp only
    split
    · exact .ok _
    · exact ((onLine_columnValue hm _ _ _ _).mono fun _ => Error.OnLine.family_eq).map

/-! ## Columns in another order -/

/-- The columns in front of the first that is to take the rest. -/
def plainColumns (suffix : String) (columns : List String) : List String :=
  columns.takeWhile fun name => (Text.beforeEnd? suffix name).isNone

theorem take_plainColumns (suffix : String) (columns : List String) :
    columns.take (plainColumns suffix columns).length = plainColumns suffix columns :=
  (List.prefix_iff_eq_take.mp (List.takeWhile_prefix _)).symm

/-- Plain columns give what their own cells say, wherever they stand. -/
theorem gifts_append (hs : f.restSuffix = .text suffix) {names cells more tail : List String}
    (hplain : ∀ name ∈ names, Text.beforeEnd? suffix name = none)
    (hlen : names.length = cells.length) :
    gifts f line kind (names ++ more) (cells ++ tail) =
      (names.zip cells).map (fun p => gift f line kind false p.1 [p.2]) ++
        gifts f line kind more tail := by
  induction names generalizing cells with
  | nil =>
    rw [List.length_eq_zero_iff.mp hlen.symm]
    rfl
  | cons name names ih =>
    obtain ⟨cell, cells, rfl⟩ := List.exists_cons_of_length_eq_add_one hlen.symm
    rw [List.forall_mem_cons] at hplain
    have hrest := ih hplain.2 (Nat.succ.inj hlen)
    have hfirst (isLast : Bool) : gift f line kind isLast name (cell :: (cells ++ tail)) =
        gift f line kind false name [cell] := by
      have hcolumn (isLast : Bool) : columnOf f isLast name = .ok ⟨name, false⟩ := by
        rw [columnOf, hs]
        cases isLast with
        | false => rfl
        | true => simp only [if_true, hplain.1]
      simp only [gift, hcolumn, columnValue, Bool.false_eq_true, if_false]
    rw [List.cons_append, List.cons_append, gifts, hfirst, List.drop_one, List.tail_cons, hrest,
      List.zip_cons_cons, List.map_cons, List.cons_append]

/-- Plain columns that are put in another order together with their cells give the same, in that
order. -/
theorem gifts_perm (hs : f.restSuffix = .text suffix) {order : List Nat}
    {columns cells : List String}
    (ho : order.Perm (List.range (plainColumns suffix columns).length))
    (hcells : (plainColumns suffix columns).length ≤ cells.length) :
    (gifts f line kind columns cells).Perm
      (gifts f line kind (reorder order columns) (reorder order cells)) := by
  have hlength : order.length = (plainColumns suffix columns).length := by
    rw [ho.length_eq, List.length_range]
  have hcolumns : (plainColumns suffix columns).length ≤ columns.length :=
    (List.takeWhile_prefix _).length_le
  have hplain : ∀ name ∈ columns.take order.length, Text.beforeEnd? suffix name = none := by
    rw [hlength, take_plainColumns]
    intro name hname
    exact Option.isNone_iff_eq_none.mp (List.all_eq_true.mp List.all_takeWhile name hname)
  have hbounds : ∀ i ∈ order, i < columns.length ∧ i < cells.length := by
    intro i hi
    have hi := List.mem_range.mp (ho.mem_iff.mp hi)
    exact ⟨by omega, by omega⟩
  -- before and after, what stands in front is pairs of a plain column and its cell
  have hbefore : gifts f line kind (columns.take order.length ++ columns.drop order.length)
      (cells.take order.length ++ cells.drop order.length) = _ :=
    gifts_append hs hplain (by rw [List.length_take, List.length_take]; omega)
  have hafter : gifts f line kind (picked order columns ++ columns.drop order.length)
      (picked order cells ++ cells.drop order.length) = _ :=
    gifts_append hs
      (fun name hname => hplain name ((picked_perm (hlength ▸ ho) columns).mem_iff.mp hname))
      (by rw [length_picked ho hcolumns, length_picked ho hcells])
  have htake : (columns.zip cells).take order.length =
      (columns.take order.length).zip (cells.take order.length) := List.take_zipWith
  rw [List.take_append_drop, List.take_append_drop] at hbefore
  rw [reorder, reorder, hbefore, hafter, zip_picked hbounds, ← htake]
  exact ((picked_perm (hlength ▸ ho) _).symm.map _).append_right _

/-! ## Calls -/

section Fill

variable {table table' : Table Field Value} {gs gs' : List (Option (Field × Value))}

theorem fill_congr (h : ∀ field, table.get? field = table'.get? field) (field : Field) :
    (fill table gs).get? field = (fill table' gs).get? field := by
  induction gs generalizing table table' with
  | nil => exact h field
  | cons o gs ih =>
    cases o with
    | none => exact ih h
    | some g => exact ih fun field => by rw [Table.get?_insert, Table.get?_insert, h]

/-- Gifts to different fields fill a table in any order. -/
theorem fill_perm (hp : gs.Perm gs') (hn : (gs.filterMap (Option.map Prod.fst)).Nodup)
    (field : Field) : (fill table gs).get? field = (fill table gs').get? field := by
  induction hp generalizing table with
  | nil => rfl
  | cons o _ ih =>
    cases o with
    | none => exact ih hn
    | some g => exact ih (List.nodup_cons.mp hn).2
  | swap o o' rest =>
    cases o with
    | none => cases o' <;> rfl
    | some g =>
      cases o' with
      | none => rfl
      | some g' =>
        have hne : g'.1 ≠ g.1 := fun h => (List.nodup_cons.mp hn).1 (by simp [h])
        show (fill ((table.insert g'.1 g'.2).insert g.1 g.2) rest).get? field =
          (fill ((table.insert g.1 g.2).insert g'.1 g'.2) rest).get? field
        refine fill_congr (fun field => ?_) field
        simp only [Table.get?_insert]
        by_cases hg : field = g.1
        · rw [if_pos hg, if_neg fun h => hne (h.symm.trans hg), if_pos hg]
        · rw [if_neg hg, if_neg hg]
  | trans h₁ _ ih₁ ih₂ => exact (ih₁ hn).trans (ih₂ ((h₁.filterMap _).nodup_iff.mp hn))

end Fill

/-- **Columns may stand in any order**, as long as the cells of a line do so too: where no field has
two columns, and each column in front of one that takes the rest has a cell, a line holds the same
call, or is at fault, as before. -/
theorem akin_callOf_reorder (hm : f.marker = .text marker) (hs : f.restSuffix = .text suffix)
    {tag : String} {order : List Nat} {columns columns' cells cells' : List String}
    (hd : ∀ kind, Kind.ofTag? tag = some kind → Distinct suffix kind (columns.drop 1))
    (ho : order.Perm (List.range (plainColumns suffix (columns.drop 1)).length))
    (hlength : (plainColumns suffix (columns.drop 1)).length ≤ (cells.drop 1).length)
    (hcolumns : columns'.drop 1 = reorder order (columns.drop 1))
    (hcells : cells'.drop 1 = reorder order (cells.drop 1)) :
    Akin Eq (callOf f line tag columns cells).result (callOf f line tag columns' cells').result := by
  unfold callOf
  split
  · exact .refl _
  · next kind hkind =>
    rw [Reading.result_bind, Reading.result_bind, result_fieldsOf, result_fieldsOf, hcolumns, hcells]
    have hperm : (gifts f line kind (columns.drop 1) (cells.drop 1)).Perm _ :=
      gifts_perm hs ho hlength
    have hgifts := akin_mapM_id_of_perm hperm (failsIn_of_mem_gifts hm hs)
    rcases hgifts.error_or_ok with ⟨err, err', h, h', hfamily⟩ | ⟨gs, gs', h, h', hperm⟩
    · rw [h, h']
      exact .error hfamily
    · rw [h, h']
      have hnodup : (gs.filterMap (Option.map Prod.fst)).Nodup :=
        (sublist_namedFields h).nodup (SheetFormat.suffix_eq hs ▸ hd kind hkind)
      have hsame : (fill .empty gs).get? = (fill .empty gs').get? :=
        funext (fill_perm hperm hnodup)
      simp only [bind, Except.bind, hsame]
      exact .refl _

end Sheet

end MetesBounds
