import MetesBounds.Proofs.Sheet.DataLines
import MetesBounds.Proofs.Sheet.Gifts
import MetesBounds.Proofs.Sheet.Refusals
import MetesBounds.Proofs.Text.Rejoined

/-!
# `Sheet/Arrangement` — the order of columns does not matter

The author of a sheet may put the columns of a header in any order, as long as the cells of the lines
below it follow; only a column that takes the rest stays last. `Sheet.rearranged` rewrites the lines
of a sheet in this way, each header in an order of its own.

Main statement: `Sheet.order_of_columns`.
-/

set_option autoImplicit false

namespace MetesBounds.Sheet

/-! ## Lines in another order -/

/-- A line whose cells behind the first `k` are put in another order, with the white space around
them. -/
def reorderLine (d : String) (k : Nat) (order : List Nat) (raw : String) : String :=
  d.intercalate ((Text.pieces d raw).take k ++ reorder order ((Text.pieces d raw).drop k))

/-- Lines with the columns of each header in another order, which depends on the header's place, and
the cells of data lines in that of the nearest header for their kind. -/
def rearranged (d start tag : String) (orders : Nat → List Nat) (governing : String → List Nat)
    (n : Nat) : List String → List String
  | [] => []
  | raw :: rest =>
    if IsRead start raw then
      let cells := cellsIn d raw
      if cells.headD "" = tag then
        reorderLine d 2 (orders n) raw ::
          rearranged d start tag orders
            (fun kind => if kind = cells.getD 1 "" then orders n else governing kind) (n + 1) rest
      else
        reorderLine d 1 (governing (cells.headD "")) raw ::
          rearranged d start tag orders governing (n + 1) rest
    else raw :: rearranged d start tag orders governing (n + 1) rest

/-- What a header's columns and their order have to be like: the order is one of the columns in
front of a column that takes the rest, and no field has two columns. -/
structure Arranges (suffix : String) (order : List Nat) (tag : String) (columns : List String) :
    Prop where
  order : order.Perm (List.range (plainColumns suffix columns).length)
  distinct : ∀ kind ∈ Kind.all, kind.tag = tag → Distinct suffix kind columns

/-- What lines have to be like for their columns to be put in other orders: so are all headers, and
each data line has a cell for every column that does not take the rest. -/
structure Arrangeable (d start tag suffix : String) (orders : Nat → List Nat) (raws : List String) :
    Prop where
  headers : ∀ r ∈ raws.zipIdx, IsRead start r.1 → (cellsIn d r.1).headD "" = tag →
    Arranges suffix (orders r.2) ((cellsIn d r.1).getD 1 "") ((cellsIn d r.1).drop 2)
  data : ∀ r ∈ raws.zipIdx, IsData d start tag r.1 → ∀ header,
    IsNearestHeader d start tag ((cellsIn d r.1).headD "") (raws.take r.2) header →
      (plainColumns suffix ((cellsIn d header).drop 2)).length < (cellsIn d r.1).length

section Lines

variable {d start tag suffix marker encoding raw : String}

/-- The cells of a line that is put together from some. -/
theorem cellsIn_intercalate (hone : Text.IsOne d) (hb : ∀ c ∈ d.toList, Text.isBlank c = false)
    {cells : List String} (hne : cells ≠ []) (hin : ∀ cell ∈ cells, ¬d.toList <:+: cell.toList) :
    cellsIn d (d.intercalate cells) = cells.map Text.trim :=
  Text.map_trim_pieces_trim hone hb hne hin

theorem cellsIn_eq (hone : Text.IsOne d) (hb : ∀ c ∈ d.toList, Text.isBlank c = false)
    (raw : String) : cellsIn d raw = (Text.pieces d raw).map Text.trim := by
  have h := cellsIn_intercalate hone hb (Text.pieces_ne_nil d raw) fun _ hp =>
    Text.not_infix_of_mem_pieces hone hp
  rwa [Text.intercalate_pieces] at h

theorem cellsIn_ne_nil (d raw : String) : cellsIn d raw ≠ [] :=
  fun h => Text.pieces_ne_nil _ _ (List.map_eq_nil_iff.mp h)

theorem mem_reorder {α : Type} {order : List Nat} {l : List α} {a : α} (h : a ∈ reorder order l) :
    a ∈ l := by
  rcases List.mem_append.mp h with h | h
  · obtain ⟨i, -, hi⟩ := List.mem_filterMap.mp h
    exact List.mem_of_getElem? hi
  · exact List.mem_of_mem_drop h

theorem cellsIn_reorderLine (hone : Text.IsOne d) (hb : ∀ c ∈ d.toList, Text.isBlank c = false)
    {k : Nat} (hk : k ≠ 0) (order : List Nat) (raw : String) :
    cellsIn d (reorderLine d k order raw) =
      (cellsIn d raw).take k ++ reorder order ((cellsIn d raw).drop k) := by
  have hin : ∀ cell ∈ (Text.pieces d raw).take k ++ reorder order ((Text.pieces d raw).drop k),
      ¬d.toList <:+: cell.toList := by
    intro cell hcell
    suffices hmem : cell ∈ Text.pieces d raw from Text.not_infix_of_mem_pieces hone hmem
    rcases List.mem_append.mp hcell with hcell | hcell
    · exact List.mem_of_mem_take hcell
    · exact List.mem_of_mem_drop (mem_reorder hcell)
  have hne : (Text.pieces d raw).take k ++ reorder order ((Text.pieces d raw).drop k) ≠ [] := by
    intro hnil
    have htake := (List.append_eq_nil_iff.mp hnil).1
    rcases List.take_eq_nil_iff.mp htake with h | h
    · exact hk h
    · exact Text.pieces_ne_nil d raw h
  rw [reorderLine, cellsIn_intercalate hone hb hne hin, List.map_append, List.map_take, map_reorder,
    List.map_drop, ← cellsIn_eq hone hb]

/-- What begins a row of characters that goes on behind a separator, and does not hold it, begins
what comes before. -/
theorem prefix_append_iff {sep start front back : List Char} (h : ¬sep <:+: start) :
    start <+: front ++ sep ++ back ↔ start <+: front ++ sep := by
  constructor
  · intro hstart
    by_cases hlen : start.length ≤ (front ++ sep).length
    · exact List.prefix_of_prefix_length_le hstart (List.prefix_append _ _) hlen
    · have hsep : front ++ sep <+: start :=
        List.prefix_of_prefix_length_le (List.prefix_append _ _) hstart (by omega)
      exact absurd ((List.suffix_append _ _).isInfix.trans hsep.isInfix) h
  · intro hstart
    exact hstart.trans (List.prefix_append _ _)

theorem beginsWith_iff {start s : String} :
    Text.beginsWith start s = true ↔ start.toList <+: s.toList := by
  rw [Text.beginsWith, Option.isSome_iff_exists]
  constructor
  · rintro ⟨rest, h⟩
    exact ⟨rest, (Text.after?_eq_some_iff.mp h).symm⟩
  · rintro ⟨rest, h⟩
    exact ⟨rest, Text.after?_eq_some_iff.mpr h.symm⟩

/-- Whether a line is read does not depend on what stands behind its first delimiter. -/
theorem isRead_append (hd : d ≠ "") (hb : ∀ c ∈ d.toList, Text.isBlank c = false)
    (hstart : ¬d.toList <:+: start.toList) (cell rest : String) :
    IsRead start (cell ++ d ++ rest) ↔
      ¬start.toList <+: cell.toList.dropWhile Text.isBlank ++ d.toList := by
  have hne : d.toList ≠ [] := fun h => hd (String.toList_eq_nil_iff.mp h)
  have htrim : (Text.trim (cell ++ d ++ rest)).toList =
      cell.toList.dropWhile Text.isBlank ++ d.toList ++
        (rest.toList.reverse.dropWhile Text.isBlank).reverse := by
    rw [Text.trim, String.toList_ofList, String.toList_append, String.toList_append,
      Text.trimBoth_around hne hb]
  have hnonempty : Text.trim (cell ++ d ++ rest) ≠ "" := by
    intro hempty
    rw [hempty] at htrim
    have hnil := List.append_eq_nil_iff.mp (List.append_eq_nil_iff.mp htrim.symm).1
    exact hne hnil.2
  rw [IsRead, and_iff_right hnonempty, Bool.eq_false_iff, ne_eq, beginsWith_iff, htrim,
    prefix_append_iff hstart]

theorem isRead_reorderLine (hone : Text.IsOne d) (hb : ∀ c ∈ d.toList, Text.isBlank c = false)
    (hstart : ¬d.toList <:+: start.toList) {k : Nat} (hk : k ≠ 0) {order : List Nat} {n : Nat}
    (ho : order.Perm (List.range n)) (hn : n ≤ ((cellsIn d raw).drop k).length) :
    IsRead start (reorderLine d k order raw) ↔ IsRead start raw := by
  have hd : d ≠ "" := fun h => hone.ne_nil (String.toList_eq_nil_iff.mpr h)
  obtain ⟨cell, cells, hcells⟩ := List.exists_cons_of_ne_nil (Text.pieces_ne_nil d raw)
  obtain ⟨k, rfl⟩ := Nat.exists_eq_succ_of_ne_zero hk
  have hraw := Text.intercalate_pieces d raw
  rw [cellsIn_eq hone hb, hcells, List.map_cons, List.drop_succ_cons, ← List.map_drop,
    List.length_map] at hn
  rw [reorderLine, hcells, List.take_succ_cons, List.drop_succ_cons, List.cons_append]
  -- there are other cells behind the first afterwards just where there were before
  have hlength : (cells.take k ++ reorder order (cells.drop k)).length = cells.length := by
    rw [List.length_append, reorder, List.length_append, length_picked ho hn, ho.length_eq]
    simp only [List.length_take, List.length_drop, List.length_range] at hn ⊢
    omega
  rw [hcells] at hraw
  cases cells with
  | nil =>
    rw [List.length_eq_zero_iff.mp hlength, hraw]
  | cons cell' cells =>
    obtain ⟨first, others, hothers⟩ := List.exists_cons_of_length_eq_add_one hlength
    rw [hothers, ← hraw, String.intercalate_cons_cons, String.intercalate_cons_cons,
      isRead_append hd hb hstart, isRead_append hd hb hstart]

theorem declares?_eq_some {f : SheetFormat} {kind : String} {cells columns : List String}
    (h : declares? f kind cells = some columns) : columns = cells.drop 1 := by
  rcases cells with _ | ⟨first, _ | ⟨declared, columns'⟩⟩
  · cases h
  · cases h
  · rw [declares?] at h
    split at h
    · cases h
      rfl
    · cases h

end Lines

/-! ## Reading both sheets -/

/-- What is known of a result may use how it came about. -/
theorem akin_and_eq {α β : Type} {R : α → β → Prop} {x : Except Error α} {y : Except Error β}
    (h : Akin R x y) : Akin (fun a b => R a b ∧ x = .ok a) x y := by
  cases h with
  | ok h => exact .ok ⟨h, rfl⟩
  | error h => exact .error h

/-- What the headers of the one sheet have left behind, beside what those of the other have. -/
structure Follows (f : SheetFormat) (suffix : String) (governing : String → List Nat)
    (headers headers' : Headers) (before : List String) : Prop where
  table : ∀ kind, headers.get? kind = lastHeader? f kind (rowsOn f before)
  absent : ∀ kind, headers.get? kind = none → headers'.get? kind = none ∧ governing kind = []
  present : ∀ kind columns, headers.get? kind = some columns →
    Arranges suffix (governing kind) kind (columns.drop 1) ∧
      ∃ columns', headers'.get? kind = some columns' ∧
        columns'.drop 1 = reorder (governing kind) (columns.drop 1)

/-- A header whose columns are in another order governs its kind from then on. -/
theorem Follows.insert {f : SheetFormat} {suffix raw kind : String} {governing : String → List Nat}
    {order : List Nat} {headers headers' : Headers} {before columns columns' : List String}
    (h : Follows f suffix governing headers headers' before)
    (hnew : Arranges suffix order kind (columns.drop 1))
    (hcolumns' : columns'.drop 1 = reorder order (columns.drop 1))
    (htable : ∀ k, (headers.insert kind columns).get? k =
      lastHeader? f k (rowsOn f (before ++ [raw]))) :
    Follows f suffix (fun k => if k = kind then order else governing k)
      (headers.insert kind columns) (headers'.insert kind columns') (before ++ [raw]) := by
  refine ⟨htable, fun k hk => ?_, fun k columns₁ hk => ?_⟩
  · rw [Table.get?_insert] at hk ⊢
    by_cases hkind : k = kind
    · rw [if_pos hkind] at hk
      cases hk
    · rw [if_neg hkind] at hk ⊢
      rw [if_neg hkind]
      exact h.absent k hk
  · rw [Table.get?_insert] at hk ⊢
    by_cases hkind : k = kind
    · rw [if_pos hkind] at hk ⊢
      rw [if_pos hkind]
      cases hk
      exact ⟨hkind ▸ hnew, columns', rfl, hcolumns'⟩
    · rw [if_neg hkind] at hk ⊢
      rw [if_neg hkind]
      exact h.present k columns₁ hk

section Sheets

variable {d start tag suffix marker encoding : String} {order : List Nat} {headers headers' : Headers}
  {raw raw' : String}

/-- A header whose columns are in another order leaves these behind. -/
theorem akin_takeLine_header (hd : d ≠ "") (hread : IsRead start raw) (hread' : IsRead start raw')
    (htag : (cellsIn d raw).headD "" = tag)
    (hcells : cellsIn d raw' = (cellsIn d raw).take 2 ++ reorder order ((cellsIn d raw).drop 2))
    (line : Nat) :
    let f : SheetFormat := .ofTexts d start tag suffix marker encoding
    Akin (fun p p' => p.2 = p'.2 ∧ ∃ columns',
        columns'.drop 1 = reorder order ((cellsIn d raw).drop 2) ∧
        p.1 = headers.insert ((cellsIn d raw).getD 1 "") ((cellsIn d raw).drop 1) ∧
        p'.1 = headers'.insert ((cellsIn d raw).getD 1 "") columns')
      (takeLine f headers line raw).result (takeLine f headers' line raw').result := by
  intro f
  have hheader : isHeaderTag f ((cellsIn d raw).headD "") = true := decide_eq_true htag
  rw [takeLine, takeLine, rowOf_of_isRead hd hread, rowOf_of_isRead hd hread', hcells]
  obtain ⟨first, rest, hraw⟩ := List.exists_cons_of_ne_nil (cellsIn_ne_nil d raw)
  rw [hraw, List.headD_cons] at hheader
  rw [hraw]
  cases rest with
  | nil =>
    have hnone : reorder order ([] : List String) = [] := by simp [reorder, picked]
    have hrow : rowOfCells f line [first] = .error (.onLine line .headerWithoutKind) := if_pos hheader
    rw [List.take_succ_cons, List.take_nil, List.drop_succ_cons, List.drop_nil, hnone,
      List.append_nil, hrow]
    exact .error rfl
  | cons kind columns =>
    have hrow (columns : List String) :
        rowOfCells f line (first :: kind :: columns) =
          if kind.isEmpty then .error (.onLine line .headerWithoutKind)
          else .ok (.header kind (kind :: columns)) := if_pos hheader
    rw [List.take_succ_cons, List.take_succ_cons, List.take_zero, List.drop_succ_cons,
      List.drop_succ_cons, List.drop_zero, List.cons_append, List.cons_append, List.nil_append,
      hrow, hrow]
    by_cases hkind : kind.isEmpty
    · rw [if_pos hkind, if_pos hkind]
      exact .error rfl
    · rw [if_neg hkind, if_neg hkind]
      exact .ok ⟨rfl, _, rfl, rfl, rfl⟩

/-- A data line whose cells are in another order, that of its columns, holds the same call. -/
theorem akin_takeLine_data (hd : d ≠ "") {governing : String → List Nat}
    {before : List String} (hdata : IsData d start tag raw) (hread' : IsRead start raw')
    (hcells : cellsIn d raw' = (cellsIn d raw).take 1 ++
      reorder (governing ((cellsIn d raw).headD "")) ((cellsIn d raw).drop 1))
    (hfollows : Follows (.ofTexts d start tag suffix marker encoding) suffix governing headers
      headers' before)
    (hlength : ∀ columns, headers.get? ((cellsIn d raw).headD "") = some columns →
      (plainColumns suffix (columns.drop 1)).length ≤ ((cellsIn d raw).drop 1).length)
    (line : Nat) :
    let f : SheetFormat := .ofTexts d start tag suffix marker encoding
    Akin (fun p p' => p.2 = p'.2 ∧ p.1 = headers ∧ p'.1 = headers')
      (takeLine f headers line raw).result (takeLine f headers' line raw').result := by
  intro f
  obtain ⟨first, rest, hraw⟩ := List.exists_cons_of_ne_nil (cellsIn_ne_nil d raw)
  have hhead : (cellsIn d raw').headD "" = (cellsIn d raw).headD "" := by
    rw [hcells, hraw]
    rfl
  have hdrop : (cellsIn d raw').drop 1 =
      reorder (governing ((cellsIn d raw).headD "")) ((cellsIn d raw).drop 1) := by
    rw [hcells, hraw]
    rfl
  have hdata' : IsData d start tag raw' := ⟨hread', by rw [hhead]; exact hdata.2⟩
  rw [takeLine, takeLine, (rowOf_eq_data_iff hd).mpr ⟨hdata, rfl, rfl⟩,
    (rowOf_eq_data_iff hd).mpr ⟨hdata', rfl, rfl⟩, hhead]
  dsimp only
  cases hcolumns : headers.get? ((cellsIn d raw).headD "") with
  | none =>
    rw [(hfollows.absent _ hcolumns).1]
    exact .error rfl
  | some columns =>
    obtain ⟨harr, columns', hcolumns', hreorder⟩ := hfollows.present _ _ hcolumns
    rw [hcolumns', Reading.result_bind, Reading.result_bind]
    have hdistinct : ∀ kind, Kind.ofTag? ((cellsIn d raw).headD "") = some kind →
        Distinct suffix kind (columns.drop 1) := by
      intro kind hkind
      have hfound := List.find?_some hkind
      exact harr.distinct kind (List.mem_of_find?_eq_some hkind) (beq_iff_eq.mp hfound)
    have hcall : Akin Eq (callOf f line ((cellsIn d raw).headD "") columns (cellsIn d raw)).result
        (callOf f line ((cellsIn d raw).headD "") columns' (cellsIn d raw')).result :=
      akin_callOf_reorder rfl rfl hdistinct harr.order (hlength columns hcolumns) hreorder hdrop
    exact hcall.bind fun c c' hc => .ok ⟨congrArg some hc, rfl, rfl⟩

variable (hone : Text.IsOne d) (hb : ∀ c ∈ d.toList, Text.isBlank c = false)
  (hstart : ¬d.toList <:+: start.toList)

include hone hb hstart

/-- **Lines with columns in other orders come to the same**, line by line: what the headers have left
behind goes on to differ in the order of columns only. -/
theorem akin_takeLines_rearranged {orders : Nat → List Nat} {governing : String → List Nat}
    {before raws : List String} (harr : Arrangeable d start tag suffix orders (before ++ raws))
    (hfollows : Follows (.ofTexts d start tag suffix marker encoding) suffix governing headers
      headers' before) :
    let f : SheetFormat := .ofTexts d start tag suffix marker encoding
    Akin Eq (takeLines f headers (before.length + 1) raws).result
      (takeLines f headers' (before.length + 1)
        (rearranged d start tag orders governing before.length raws)).result := by
  intro f
  have hd : d ≠ "" := fun h => hone.ne_nil (String.toList_eq_nil_iff.mpr h)
  induction raws generalizing before headers headers' governing with
  | nil => exact .refl _
  | cons raw rest ih =>
    have hmem : (raw, before.length) ∈ (before ++ raw :: rest).zipIdx := by
      rw [List.mk_mem_zipIdx_iff_getElem?]
      simp
    have hheader := harr.headers _ hmem
    have hcomplete := harr.data _ hmem
    rw [List.take_left] at hcomplete
    dsimp only at hheader hcomplete
    rw [List.append_cons] at harr
    have hlen : before.length + 1 = (before ++ [raw]).length := by simp
    -- one line, and then the others with what it has left behind
    have hline (raw' : String) (governing' : String → List Nat)
        (h : Akin (fun p p' => p.2 = p'.2 ∧ ((∀ kind, p.1.get? kind =
              lastHeader? f kind (rowsOn f (before ++ [raw]))) →
            Follows f suffix governing' p.1 p'.1 (before ++ [raw])))
          (takeLine f headers (before.length + 1) raw).result
          (takeLine f headers' (before.length + 1) raw').result) :
        Akin Eq (takeLines f headers (before.length + 1) (raw :: rest)).result
          (takeLines f headers' (before.length + 1)
            (raw' :: rearranged d start tag orders governing' (before.length + 1) rest)).result := by
      rw [takeLines, takeLines, Reading.result_bind, Reading.result_bind]
      refine (akin_and_eq h).bind ?_
      rintro ⟨after, call⟩ ⟨after', call'⟩ ⟨⟨hcall, hfollows'⟩, hread⟩
      obtain rfl : call = call' := hcall
      have htable := (isCallOfLine_of_takeLine hfollows.table hread).1
      rw [Reading.result_bind, Reading.result_bind, hlen]
      exact (ih harr (hfollows' htable)).bindEq fun _ => .refl _
    rw [rearranged]
    by_cases hread : IsRead start raw
    · rw [if_pos hread]
      by_cases htag : (cellsIn d raw).headD "" = tag
      · -- a header: the order of its columns governs its kind from now on
        rw [if_pos htag]
        have hnew := hheader hread htag
        have hread' : IsRead start (reorderLine d 2 (orders before.length) raw) :=
          (isRead_reorderLine hone hb hstart (Nat.succ_ne_zero 1) hnew.order
            (List.takeWhile_prefix _).length_le).mpr hread
        refine hline _ _ ((akin_takeLine_header hd hread hread' htag
          (cellsIn_reorderLine hone hb (Nat.succ_ne_zero 1) _ _) _).mono ?_)
        rintro ⟨after, call⟩ ⟨after', call'⟩ ⟨hcall, columns', hcolumns', hafter, hafter'⟩
        obtain rfl : after = _ := hafter
        obtain rfl : after' = _ := hafter'
        have hdrop : ((cellsIn d raw).drop 1).drop 1 = (cellsIn d raw).drop 2 := List.drop_drop
        rw [← hdrop] at hnew hcolumns'
        exact ⟨hcall, hfollows.insert hnew hcolumns'⟩
      · -- a data line: its cells follow the columns of the header before it
        rw [if_neg htag]
        have hdata : IsData d start tag raw := ⟨hread, htag⟩
        have hlength : ∀ columns, headers.get? ((cellsIn d raw).headD "") = some columns →
            (plainColumns suffix (columns.drop 1)).length ≤ ((cellsIn d raw).drop 1).length := by
          intro columns hcolumns
          rw [hfollows.table] at hcolumns
          obtain ⟨header, hnearest, hdeclared⟩ := exists_isNearestHeader hd hcolumns
          have hcells := hcomplete hdata header hnearest
          have hdrop : ((cellsIn d header).drop 1).drop 1 = (cellsIn d header).drop 2 :=
            List.drop_drop
          rw [declares?_eq_some hdeclared, hdrop, List.length_drop]
          omega
        have hread' : IsRead start (reorderLine d 1 (governing ((cellsIn d raw).headD "")) raw) := by
          cases hcolumns : headers.get? ((cellsIn d raw).headD "") with
          | none =>
            rw [(hfollows.absent _ hcolumns).2]
            exact (isRead_reorderLine hone hb hstart (Nat.succ_ne_zero 0) (.refl [])
              (Nat.zero_le _)).mpr hread
          | some columns =>
            exact (isRead_reorderLine hone hb hstart (Nat.succ_ne_zero 0)
              (hfollows.present _ _ hcolumns).1.order (hlength columns hcolumns)).mpr hread
        refine hline _ _ ((akin_takeLine_data hd hdata hread'
          (cellsIn_reorderLine hone hb (Nat.succ_ne_zero 0) _ _) hfollows hlength _).mono ?_)
        rintro ⟨after, call⟩ ⟨after', call'⟩ ⟨hcall, rfl, rfl⟩
        exact ⟨hcall, fun htable => ⟨htable, hfollows.absent, hfollows.present⟩⟩
    · rw [if_neg hread]
      have hskip (headers : Headers) :
          takeLine f headers (before.length + 1) raw = .pure (headers, none) := by
        rw [takeLine, rowOf_of_not_isRead hread]
      refine hline raw governing ?_
      rw [hskip, hskip]
      exact .ok ⟨rfl, fun htable => ⟨htable, hfollows.absent, hfollows.present⟩⟩

/-- **The order of columns does not matter.** Where the columns of headers, but for a column that
takes the rest, are put in other orders together with the cells of the lines that they are for, and
no field has two columns and no such line a cell too few, the sheet holds the same calls as before,
or both are refused, with errors of one kind: that of a line or that of a record. -/
theorem order_of_columns {orders : Nat → List Nat} {text text' : String}
    (harr : Arrangeable d start tag suffix orders (Text.lines text))
    (htext' : Text.lines text' =
      rearranged d start tag orders (fun _ => []) 0 (Text.lines text)) :
    let f : SheetFormat := .ofTexts d start tag suffix marker encoding
    (∃ calls, (parse f text).result = .ok calls ∧ (parse f text').result = .ok calls) ∨
      ∃ err err', (parse f text).result = .error err ∧ (parse f text').result = .error err' ∧
        err.Refusal ∧ err'.Refusal ∧ err.family = err'.family := by
  intro f
  have hd : d.isEmpty = false := by
    rw [Bool.eq_false_iff, ne_eq, String.isEmpty_iff]
    exact fun h => hone.ne_nil (String.toList_eq_nil_iff.mpr h)
  have hfollows : Follows f suffix (fun _ => []) .empty .empty [] :=
    ⟨fun _ => rfl, fun _ _ => ⟨rfl, rfl⟩, fun _ _ h => nomatch h⟩
  have harr' : Arrangeable d start tag suffix orders ([] ++ Text.lines text) := harr
  have hakin : Akin Eq (parse f text).result (parse f text').result := by
    rw [result_parse, result_parse, htext']
    exact akin_takeLines_rearranged hone hb hstart harr' hfollows
  rcases hakin.error_or_ok with ⟨err, err', h, h', hfamily⟩ | ⟨calls, _, h, h', rfl⟩
  · exact .inr ⟨err, err', h, h', refuses_parse hd text err h, refuses_parse hd text' err' h',
      hfamily⟩
  · exact .inl ⟨calls, h, h'⟩

end Sheets

instance (suffix : String) (order : List Nat) (tag : String) (columns : List String) :
    Decidable (Arranges suffix order tag columns) :=
  decidable_of_iff (order.Perm (List.range (plainColumns suffix columns).length) ∧
      ∀ kind ∈ Kind.all, kind.tag = tag → Distinct suffix kind columns)
    ⟨fun h => ⟨h.1, h.2⟩, fun h => ⟨h.order, h.distinct⟩⟩

instance (d start tag kind raw : String) : Decidable (IsHeaderFor d start tag kind raw) :=
  inferInstanceAs (Decidable (_ ∧ _ ∧ _))

/-- A sheet with two kinds of calls, white space in a cell and a column that takes the rest. -/
def orderedSheet : String :=
  "H,L,Bearing,Distance,Direction,Memo\nL, N1E ,3,TRUE,a\n\nH,F,Memo,Name,Args...\nF,1,f,$x,y\n"

/-- The same sheet with its columns in other orders. -/
def reorderedSheet : String :=
  "H,L,Memo,Distance,Bearing,Direction\nL,a,3, N1E ,TRUE\n\nH,F,Name,Memo,Args...\nF,f,1,$x,y\n"

theorem order_of_columns_orderedSheet :
    let f := SheetFormat.usual
    let orders : Nat → List Nat := fun n => if n = 0 then [3, 1, 0, 2] else [1, 0]
    Text.IsOne "," ∧ (∀ c ∈ ",".toList, Text.isBlank c = false) ∧
      ¬",".toList <:+: "#".toList ∧
      Arrangeable "," "#" "H" "..." orders (Text.lines orderedSheet) ∧
      Text.lines reorderedSheet =
        rearranged "," "#" "H" orders (fun _ => []) 0 (Text.lines orderedSheet) ∧
      ∃ calls, (parse f orderedSheet).result = .ok calls ∧
        (parse f reorderedSheet).result = .ok calls := by
  intro f orders
  have hone : Text.IsOne "," := ⟨0x2C, by decide, by decide⟩
  have hb : ∀ c ∈ ",".toList, Text.isBlank c = false := by decide +kernel
  have hstart : ¬",".toList <:+: "#".toList := by decide +kernel
  have harr : Arrangeable "," "#" "H" "..." orders (Text.lines orderedSheet) := by
    refine ⟨by decide +kernel, fun r hr hdata header hnearest => ?_⟩
    have hany : ∀ r ∈ (Text.lines orderedSheet).zipIdx, IsData "," "#" "H" r.1 →
        ∀ header ∈ (Text.lines orderedSheet).take r.2,
          IsHeaderFor "," "#" "H" ((cellsIn "," r.1).headD "") header →
          (plainColumns "..." ((cellsIn "," header).drop 2)).length < (cellsIn "," r.1).length := by
      decide +kernel
    obtain ⟨front, between, hbefore, hheader, -⟩ := hnearest
    exact hany r hr hdata header (hbefore ▸ by simp) hheader
  have hlines : Text.lines reorderedSheet =
      rearranged "," "#" "H" orders (fun _ => []) 0 (Text.lines orderedSheet) := by decide +kernel
  have hread : (parse f orderedSheet).result.isOk = true := by decide +kernel
  refine ⟨hone, hb, hstart, harr, hlines, ?_⟩
  have hsame : (∃ calls, (parse f orderedSheet).result = .ok calls ∧
      (parse f reorderedSheet).result = .ok calls) ∨ _ :=
    order_of_columns hone hb hstart harr hlines
  rcases hsame with h | ⟨err, -, h, -⟩
  · exact h
  · have hread' : (parse f orderedSheet).result.isOk = false := congrArg Except.isOk h
    rw [hread] at hread'
    cases hread'

end MetesBounds.Sheet
