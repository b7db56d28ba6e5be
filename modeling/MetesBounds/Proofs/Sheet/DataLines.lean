import MetesBounds.Proofs.Calculation.Akin
import MetesBounds.Proofs.Sheet.Lines
import MetesBounds.Proofs.Sheet.Rows
import MetesBounds.Proofs.Text.Cut

/-!
# `Sheet/DataLines` — every call can be read by itself

A text that can be read has one call for each of its data lines, and a data line needs no more of the
text than the nearest header for its kind: the two lines alone are a text with this one call. Where a
line stands only shows in errors and reports, and lines that are passed over leave nothing behind.

Main statement: `Sheet.paired_dataLines`.
-/

set_option autoImplicit false

namespace MetesBounds.Sheet

/-! ## Kinds of lines -/

/-- The cells of a line. -/
def cellsIn (d raw : String) : List String := (Text.pieces d (Text.trim raw)).map Text.trim

/-- A line that is not passed over: something stands on it, and it does not begin like a comment. -/
def IsRead (start raw : String) : Prop :=
  Text.trim raw ≠ "" ∧ Text.beginsWith start (Text.trim raw) = false

instance (start raw : String) : Decidable (IsRead start raw) :=
  inferInstanceAs (Decidable (_ ∧ _))

/-- A line of data: it is read, and not as a header. -/
def IsData (d start tag raw : String) : Prop := IsRead start raw ∧ (cellsIn d raw).headD "" ≠ tag

instance (d start tag raw : String) : Decidable (IsData d start tag raw) :=
  inferInstanceAs (Decidable (_ ∧ _))

/-- A header line for a kind. -/
def IsHeaderFor (d start tag kind raw : String) : Prop :=
  IsRead start raw ∧ kind ≠ "" ∧ [tag, kind] <+: cellsIn d raw

/-- The nearest header line for a kind before some place. -/
def IsNearestHeader (d start tag kind : String) (before : List String) (header : String) : Prop :=
  ∃ front between, before = front ++ header :: between ∧ IsHeaderFor d start tag kind header ∧
    ∀ raw ∈ between, ¬IsHeaderFor d start tag kind raw

/-- The data lines among some lines, each with the number of lines before it. -/
def dataLines (d start tag : String) (raws : List String) : List (String × Nat) :=
  raws.zipIdx.filter fun r => IsData d start tag r.1

/-! ## What a line is -/

section Rows

variable {d start tag suffix marker encoding raw : String}

theorem cellsOfLine_of_not_isRead (h : ¬IsRead start raw) :
    cellsOfLine (.ofTexts d start tag suffix marker encoding) raw = .ok none := by
  have hpassed : isPassedOver (.ofTexts d start tag suffix marker encoding) (Text.trim raw) =
      .ok true := by
    rw [isPassedOver]
    split
    · rfl
    · next hne =>
      rw [String.isEmpty_iff] at hne
      rw [IsRead, not_and, Bool.not_eq_false] at h
      exact congrArg Except.ok (h hne)
  rw [cellsOfLine, hpassed]
  rfl

theorem cellsOfLine_of_isRead (hd : d ≠ "") (h : IsRead start raw) :
    cellsOfLine (.ofTexts d start tag suffix marker encoding) raw = .ok (some (cellsIn d raw)) := by
  have hpassed : isPassedOver (.ofTexts d start tag suffix marker encoding) (Text.trim raw) =
      .ok false := by
    rw [isPassedOver, if_neg (String.isEmpty_iff.not.mpr h.1)]
    exact congrArg Except.ok h.2
  have hcells : cellsOf (.ofTexts d start tag suffix marker encoding) (Text.trim raw) =
      .ok (cellsIn d raw) := by
    simp only [cellsOf, SheetFormat.ofTexts, String.isEmpty_iff, if_neg hd, cellsIn]
  rw [cellsOfLine, hpassed, hcells]
  rfl

theorem rowOf_of_not_isRead (h : ¬IsRead start raw) (line : Nat) :
    rowOf (.ofTexts d start tag suffix marker encoding) line raw = .ok .skipped :=
  rowOf_eq_skipped (cellsOfLine_of_not_isRead h) line

theorem rowOf_of_isRead (hd : d ≠ "") (h : IsRead start raw) (line : Nat) :
    rowOf (.ofTexts d start tag suffix marker encoding) line raw =
      rowOfCells (.ofTexts d start tag suffix marker encoding) line (cellsIn d raw) :=
  rowOf_eq (cellsOfLine_of_isRead hd h) line

theorem rowOf_eq_data_iff (hd : d ≠ "") {line : Nat} {kind : String} {cells : List String} :
    rowOf (.ofTexts d start tag suffix marker encoding) line raw = .ok (.data kind cells) ↔
      IsData d start tag raw ∧ kind = (cellsIn d raw).headD "" ∧ cells = cellsIn d raw := by
  by_cases hread : IsRead start raw
  · rw [rowOf_of_isRead hd hread]
    constructor
    · intro h
      obtain ⟨htag, hkind, hcells⟩ := eq_of_rowOfCells_data h
      exact ⟨⟨hread, of_decide_eq_false htag⟩, hkind, hcells⟩
    · rintro ⟨⟨-, htag⟩, rfl, rfl⟩
      have htag : isHeaderTag (.ofTexts d start tag suffix marker encoding)
          ((cellsIn d raw).headD "") = false := decide_eq_false htag
      rw [rowOfCells, htag]
      rfl
  · rw [rowOf_of_not_isRead hread]
    refine ⟨?_, fun h => absurd h.1.1 hread⟩
    rintro ⟨⟩

/-- The cells on a line that is read. -/
theorem cellsOn?_eq (hd : d ≠ "") (raw : String) :
    cellsOn? (.ofTexts d start tag suffix marker encoding) raw =
      if IsRead start raw then some (cellsIn d raw) else none := by
  split
  · next hread => exact cellsOn?_eq_some.mpr (cellsOfLine_of_isRead hd hread)
  · next hread =>
    rw [cellsOn?, cellsOfLine_of_not_isRead hread]
    rfl

theorem isSome_declares? {kind : String} {cells : List String} :
    (declares? (.ofTexts d start tag suffix marker encoding) kind cells).isSome ↔
      kind ≠ "" ∧ [tag, kind] <+: cells := by
  rcases cells with _ | ⟨first, _ | ⟨declared, columns⟩⟩
  · simp [declares?]
  · simp [declares?]
  · simp only [declares?, isHeaderTag, SheetFormat.ofTexts, Option.isSome_ite, Bool.and_eq_true,
      decide_eq_true_eq, Bool.not_eq_true', beq_iff_eq, List.cons_prefix_cons, List.nil_prefix,
      and_true, String.isEmpty_eq_false_iff]
    constructor
    · rintro ⟨⟨rfl, hne⟩, rfl⟩
      exact ⟨hne, rfl, rfl⟩
    · rintro ⟨hne, rfl, rfl⟩
      exact ⟨⟨rfl, hne⟩, rfl⟩

theorem isHeaderFor_iff (hd : d ≠ "") {kind : String} :
    IsHeaderFor d start tag kind raw ↔
      ((cellsOn? (.ofTexts d start tag suffix marker encoding) raw).bind
        (declares? (.ofTexts d start tag suffix marker encoding) kind)).isSome := by
  rw [cellsOn?_eq hd]
  split
  · next hread => rw [Option.bind_some, isSome_declares?, IsHeaderFor, and_iff_right hread]
  · next hread => exact iff_of_false (fun h => hread h.1) Bool.false_ne_true

/-- What headers have left behind for a kind is what the nearest of them declares. -/
theorem exists_isNearestHeader (hd : d ≠ "") {kind : String} {before columns : List String}
    (h : lastHeader? (.ofTexts d start tag suffix marker encoding) kind
      (rowsOn (.ofTexts d start tag suffix marker encoding) before) = some columns) :
    ∃ header, IsNearestHeader d start tag kind before header ∧
      declares? (.ofTexts d start tag suffix marker encoding) kind (cellsIn d header) =
        some columns := by
  rw [lastHeader?, rowsOn, ← List.filterMap_reverse, ← List.head?_filterMap,
    List.filterMap_filterMap, List.head?_filterMap] at h
  obtain ⟨between, header, front, hbefore, hheader, hbetween⟩ := List.findSome?_eq_some_iff.mp h
  have hfor : IsHeaderFor d start tag kind header := by
    rw [isHeaderFor_iff hd, hheader]
    rfl
  rw [cellsOn?_eq hd, if_pos hfor.1] at hheader
  refine ⟨header, ⟨front.reverse, between.reverse, ?_, hfor, fun raw hraw => ?_⟩, hheader⟩
  · rw [← List.reverse_reverse before, hbefore, List.reverse_append, List.reverse_cons,
      List.append_assoc]
    rfl
  · rw [isHeaderFor_iff hd, hbetween raw (List.mem_reverse.mp hraw)]
    exact Bool.false_ne_true

end Rows

/-! ## The place of a line -/

section Place

variable {f : SheetFormat}

theorem akin_cellValue (n m : Nat) (field : Field) (cell : String) :
    Akin Eq (cellValue f n field cell) (cellValue f m field cell) := by
  refine .ite (.refl _) ((Akin.refl _).bindEq fun name? => ?_)
  cases name? with
  | some name => exact .refl _
  | none =>
    refine .ite (.refl _) (.ite ?_ (.refl _))
    split
    · exact .refl _
    · exact .error rfl

theorem akin_columnValue (n m : Nat) (field : Field) (takesRest : Bool) (cells : List String) :
    Akin Eq (columnValue f n field takesRest cells) (columnValue f m field takesRest cells) := by
  refine .ite ?_ ?_
  · have hstep : ∀ cell cell', cell = cell' →
        Akin Eq (cellValue f n field cell) (cellValue f m field cell') := by
      rintro cell _ rfl
      exact akin_cellValue n m field cell
    have hcells := Akin.mapM hstep (List.forall₂_refl (dropEmptyEnd cells))
    rw [List.forall₂_eq_eq_eq] at hcells
    exact hcells.bindEq fun _ => .refl _
  · split
    · exact .refl _
    · exact (akin_cellValue n m field _).bindEq fun _ => .refl _

theorem akin_fieldsOf (n m : Nat) (kind : Kind) (columns : List String) (given : Table Field Value)
    (cells : List String) : Akin Eq (fieldsOf f n kind given columns cells).result
      (fieldsOf f m kind given columns cells).result := by
  induction columns generalizing given cells with
  | nil => exact .refl _
  | cons name columns ih =>
    unfold fieldsOf
    split
    · exact .refl _
    · next column _ =>
      split
      · exact ih _ _
      · next field _ =>
        rcases (akin_columnValue n m field column.takesRest cells).error_or_ok with
          ⟨err, err', hn, hm, hkind⟩ | ⟨v, _, hn, hm, rfl⟩
        · rw [hn, hm]
          exact .error hkind
        · rw [hn, hm]
          cases v with
          | none => exact ih _ _
          | some v => exact ih _ _

theorem akin_callOf (n m : Nat) (tag : String) (columns cells : List String) :
    Akin Eq (callOf f n tag columns cells).result (callOf f m tag columns cells).result := by
  unfold callOf
  split
  · exact .error rfl
  · next kind _ =>
    rw [Reading.result_bind, Reading.result_bind]
    refine (akin_fieldsOf n m kind _ _ _).bindEq fun given => ?_
    split
    · exact .refl _
    · exact .error rfl

theorem akin_rowOfCells (n m : Nat) (cells : List String) :
    Akin Eq (rowOfCells f n cells) (rowOfCells f m cells) := by
  refine .ite ?_ (.refl _)
  split
  · exact .error rfl
  · exact .ite (.error rfl) (.refl _)

theorem akin_rowOf (n m : Nat) (raw : String) : Akin Eq (rowOf f n raw) (rowOf f m raw) := by
  refine (Akin.refl (cellsOfLine f raw)).bindEq fun cells? => ?_
  cases cells? with
  | none => exact .refl _
  | some cells => exact akin_rowOfCells n m cells

/-- What comes of a line does not depend on its place. -/
theorem akin_takeLine (headers : Headers) (n m : Nat) (raw : String) :
    Akin Eq (takeLine f headers n raw).result (takeLine f headers m raw).result := by
  unfold takeLine
  rcases (akin_rowOf n m raw).error_or_ok with ⟨err, err', hn, hm, hkind⟩ | ⟨row, _, hn, hm, rfl⟩
  · rw [hn, hm]
    exact .error hkind
  · rw [hn, hm]
    cases row with
    | skipped => exact .refl _
    | header kind columns => exact .refl _
    | data kind cells =>
      dsimp only
      split
      · exact .error rfl
      · next columns _ =>
        rw [Reading.result_bind, Reading.result_bind]
        exact (akin_callOf n m kind columns cells).bindEq fun _ => .refl _

end Place

/-! ## Texts -/

section Texts

variable {d start tag suffix marker encoding : String}

/-- Lines come to the same without those that are passed over. -/
theorem akin_takeLines_filter (headers : Headers) (n m : Nat) (raws : List String) :
    let f : SheetFormat := .ofTexts d start tag suffix marker encoding
    Akin Eq (takeLines f headers n raws).result
      (takeLines f headers m (raws.filter (IsRead start ·))).result := by
  intro f
  induction raws generalizing headers n m with
  | nil => exact .refl _
  | cons raw rest ih =>
    by_cases hread : IsRead start raw
    · rw [List.filter_cons_of_pos (by simpa using hread), takeLines, takeLines,
        Reading.result_bind, Reading.result_bind]
      refine (akin_takeLine headers n m raw).bindEq ?_
      rintro ⟨headers', call⟩
      rw [Reading.result_bind, Reading.result_bind]
      exact (ih headers' (n + 1) (m + 1)).bindEq fun _ => .refl _
    · have hskip : takeLine f headers n raw = .pure (headers, none) := by
        rw [takeLine, rowOf_of_not_isRead hread]
      rw [List.filter_cons_of_neg (by simpa using hread), takeLines, hskip,
        Reading.pure_bind, Reading.result_bind]
      have hsame : ((takeLines f headers (n + 1) rest).result >>= fun calls =>
          (Reading.pure ((none : Option Call).toList ++ calls)).result) =
          (takeLines f headers (n + 1) rest).result := bind_pure _
      rw [hsame]
      exact ih headers (n + 1) m

/-- A header and a data line of its kind are a text of one call. -/
theorem result_parse_pair {f : SheetFormat} {header raw kind : String}
    {columns cells cells' : List String} {c : Call} {n : Nat}
    (hh : cellsOfLine f header = .ok (some cells)) (hcolumns : declares? f kind cells = some columns)
    (hr : rowOf f n raw = .ok (.data kind cells'))
    (hc : (callOf f n kind columns cells').result = .ok c)
    (hlines : ∀ line ∈ [header, raw], line ≠ "" ∧ ∀ c ∈ line.toList, Text.isLineBreak c = false) :
    (parse f (header ++ "\n" ++ raw)).result = .ok [c] := by
  have hpair : header ++ "\n" ++ raw = "\n".intercalate [header, raw] := rfl
  have hheader : rowOf f 1 header = .ok (.header kind columns) := by
    rw [rowOf_eq hh]
    exact rowOfCells_of_declares? hcolumns 1
  have hdata : rowOf f 2 raw = .ok (.data kind cells') := by
    obtain ⟨_, h, rfl⟩ := (hr ▸ akin_rowOf n 2 raw).of_ok
    exact h
  have hfirst : (takeLine f .empty 1 header).result = .ok (Table.empty.insert kind columns, none) := by
    rw [takeLine, hheader]
    rfl
  have hcall : (callOf f 2 kind columns cells').result = .ok c := by
    obtain ⟨_, h, rfl⟩ := (hc ▸ akin_callOf n 2 kind columns cells').of_ok
    exact h
  have hsecond : (takeLine f (Table.empty.insert kind columns) 2 raw).result =
      .ok (Table.empty.insert kind columns, some c) := by
    rw [takeLine, hdata]
    dsimp only
    rw [Table.get?_insert, if_pos rfl]
    exact Reading.bind_eq_ok.mpr ⟨c, hcall, rfl⟩
  rw [hpair, result_parse, Text.lines_intercalate hlines]
  refine Reading.bind_eq_ok.mpr ⟨_, hfirst, Reading.bind_eq_ok.mpr ⟨[c], ?_, rfl⟩⟩
  exact Reading.bind_eq_ok.mpr ⟨_, hsecond, rfl⟩

/-- A call is that of a data line among some lines, read by itself: with the nearest header for its
kind before it the line is a text of this one call. -/
def IsReadAlone (f : SheetFormat) (d start tag : String) (raws : List String) (r : String × Nat)
    (c : Call) : Prop :=
  ∃ header, IsNearestHeader d start tag ((cellsIn d r.1).headD "") (raws.take r.2) header ∧
    (parse f (header ++ "\n" ++ r.1)).result = .ok [c]

variable {before raws : List String} {raw : String}

theorem IsRead.ne_empty (h : IsRead start raw) : raw ≠ "" := by
  rintro rfl
  exact h.1 rfl

/-- The call of a line is read from its nearest header and the line alone. -/
theorem IsCallOfLine.isReadAlone (hd : d ≠ "") {columns cells : List String} {c : Call}
    (h : IsCallOfLine (.ofTexts d start tag suffix marker encoding) before raw columns cells c)
    (hlines : ∀ line ∈ before ++ [raw], ∀ c ∈ line.toList, Text.isLineBreak c = false)
    (rest : List String) :
    IsData d start tag raw ∧ IsReadAlone (.ofTexts d start tag suffix marker encoding) d start tag
      (before ++ rest) (raw, before.length) c := by
  obtain ⟨hdata, hkind, -⟩ := (rowOf_eq_data_iff hd).mp h.row
  obtain ⟨header, hnearest, hcolumns⟩ := exists_isNearestHeader hd h.header
  rw [hkind] at hnearest
  refine ⟨hdata, header, by rwa [List.take_left], ?_⟩
  obtain ⟨front, between, rfl, hheader, -⟩ := hnearest
  refine result_parse_pair (cellsOfLine_of_isRead hd hheader.1) hcolumns h.row h.call ?_
  rw [List.forall_mem_cons, List.forall_mem_singleton]
  exact ⟨⟨hheader.1.ne_empty, hlines header (by simp)⟩, hdata.1.ne_empty, hlines raw (by simp)⟩

/-- A data line has a call. -/
theorem isSome_of_takeLine (hd : d ≠ "") (hdata : IsData d start tag raw) {headers headers' : Headers}
    {line : Nat} {o : Option Call}
    (h : (takeLine (.ofTexts d start tag suffix marker encoding) headers line raw).result =
      .ok (headers', o)) : o.isSome := by
  rw [takeLine, (rowOf_eq_data_iff hd).mpr ⟨hdata, rfl, rfl⟩] at h
  dsimp only at h
  split at h
  · cases h
  · obtain ⟨c, -, h⟩ := Reading.bind_eq_ok.mp h
    cases h
    rfl

/-- The calls of lines are those of the data lines among them, in order. -/
theorem paired_takeLines (hd : d ≠ "") {headers : Headers} {calls : List Call}
    (hh : ∀ kind, headers.get? kind =
      lastHeader? (.ofTexts d start tag suffix marker encoding) kind
        (rowsOn (.ofTexts d start tag suffix marker encoding) before))
    (hlines : ∀ line ∈ before ++ raws, ∀ c ∈ line.toList, Text.isLineBreak c = false)
    (h : (takeLines (.ofTexts d start tag suffix marker encoding) headers (before.length + 1)
      raws).result = .ok calls) :
    Paired (IsReadAlone (.ofTexts d start tag suffix marker encoding) d start tag (before ++ raws))
      ((raws.zipIdx before.length).filter fun r => IsData d start tag r.1) calls := by
  induction raws generalizing before headers calls with
  | nil =>
    cases h
    exact .nil
  | cons raw rest ih =>
    rw [takeLines] at h
    obtain ⟨⟨headers', o⟩, hline, h⟩ := Reading.bind_eq_ok.mp h
    obtain ⟨calls', hcalls, h⟩ := Reading.bind_eq_ok.mp h
    cases h
    obtain ⟨hh', hcall⟩ := isCallOfLine_of_takeLine hh hline
    rw [List.append_cons] at hlines
    have hlen : before.length + 1 = (before ++ [raw]).length := by
      rw [List.length_append, List.length_singleton]
    rw [hlen] at hcalls
    have hrest := ih hh' hlines hcalls
    rw [← hlen, ← List.append_cons] at hrest
    rw [List.zipIdx_cons]
    cases o with
    | none =>
      have hdata : ¬IsData d start tag raw := fun hdata =>
        absurd (isSome_of_takeLine hd hdata hline) Bool.false_ne_true
      rw [List.filter_cons_of_neg (by simpa using hdata)]
      exact hrest
    | some c =>
      obtain ⟨columns, cells, hread⟩ := hcall c rfl
      have hfront : ∀ line ∈ before ++ [raw], ∀ c ∈ line.toList, Text.isLineBreak c = false :=
        fun line hmem => hlines line (List.mem_append_left rest hmem)
      obtain ⟨hdata, halone⟩ := hread.isReadAlone hd hfront (raw :: rest)
      rw [List.filter_cons_of_pos (by simpa using hdata)]
      exact hrest.cons halone

/-- **Every call can be read by itself.** Of a text that can be read the calls are those of its data
lines, one by one and in order, and each of them is the one call of two lines: the nearest header for
its kind and its own. So any text with the same lines, blank lines and comments apart, has the same
calls. -/
theorem paired_dataLines (hd : d ≠ "") {text : String} {calls : List Call}
    (h : (parse (.ofTexts d start tag suffix marker encoding) text).result = .ok calls) :
    let f : SheetFormat := .ofTexts d start tag suffix marker encoding
    Paired (IsReadAlone f d start tag (Text.lines text)) (dataLines d start tag (Text.lines text))
        calls ∧
      ∀ text', (Text.lines text').filter (IsRead start ·) = (Text.lines text).filter (IsRead start ·) →
        (parse f text').result = .ok calls := by
  intro f
  rw [result_parse] at h
  constructor
  · have hempty : ∀ kind, Table.get? (.empty : Headers) kind = lastHeader? f kind (rowsOn f []) :=
      fun _ => rfl
    exact paired_takeLines hd hempty (fun line hmem => Text.not_isLineBreak_of_mem_lines hmem) h
  · intro text' hsame
    have hakin (raws : List String) : Akin Eq (takeLines f .empty 1 raws).result
        (takeLines f .empty 1 (raws.filter (IsRead start ·))).result :=
      akin_takeLines_filter .empty 1 1 raws
    obtain ⟨_, hread, rfl⟩ := (h ▸ hakin (Text.lines text)).of_ok
    rw [← hsame] at hread
    obtain ⟨_, hread', rfl⟩ := (hread ▸ (hakin (Text.lines text')).swap).of_ok
    rw [result_parse]
    exact hread'

/-- A sheet with a comment, headers of two kinds, and one of them declared anew behind a call. -/
def noisySheet : String :=
  "# plan\nH,P,Latitude,Longitude\nH,L,Bearing,Distance,Direction\n\nP,1,2\nL,N1E,3,TRUE\n" ++
    "H,P,Longitude,Latitude\nP,1,2\n"

theorem paired_dataLines_noisySheet :
    let f := SheetFormat.usual
    "," ≠ "" ∧ ∃ calls, (parse f noisySheet).result = .ok calls ∧
    Paired (IsReadAlone f "," "#" "H" (Text.lines noisySheet))
        (dataLines "," "#" "H" (Text.lines noisySheet)) calls ∧
      ∀ text', (Text.lines text').filter (IsRead "#" ·) =
          (Text.lines noisySheet).filter (IsRead "#" ·) →
        (parse f text').result = .ok calls := by
  intro f
  obtain ⟨calls, hcalls⟩ : ∃ calls, (parse f noisySheet).result = .ok calls :=
    exists_eq_ok (by decide +kernel)
  exact ⟨by decide, calls, hcalls, paired_dataLines (by decide) hcalls⟩

end Texts

end MetesBounds.Sheet
