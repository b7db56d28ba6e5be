import MetesBounds.Proofs.Calculation
import MetesBounds.Sheet

/-!
# `Sheet/Refusals` — what a sheet can be refused for

A file is first decoded, and bytes that are no UTF-8 are an error of their own. A text is then
refused over a line or over the kind of a record, and over nothing else, as long as the sheet's
format is written in texts and its delimiter is not empty. A line is refused with an error that
names it.

Main statements: `Sheet.blames_takeLine` (over what a line is refused), `Sheet.refuses_parse` (over
what a text is refused) and `Sheet.load_usual` (a file is its text, parsed).
-/

set_option autoImplicit false

namespace MetesBounds

/-- The errors that a text is refused with: of a line, or of the kind of a record. -/
def Error.Refusal (err : Error) : Prop := err.family = .sheet ∨ err.family = .record

/-- The errors over a line. -/
def Error.OnLine (line : Nat) (err : Error) : Prop := ∃ fault, err = .onLine line fault

/-- The errors that a line is refused with: of a line, which they name as their place, or of a
record, and in words they begin with the number of the line. -/
structure Error.Blames (line : Nat) (err : Error) : Prop where
  kind : err.family = .sheet ∧ Sheet.lineOf err = some line ∨ err.family = .record
  message : ∃ rest, err.message = "line " ++ toString line ++ ": " ++ rest

open Error (Refusal OnLine Blames)

section Errors

variable {line : Nat} {err : Error}

theorem Error.OnLine.family_eq (h : OnLine line err) : err.family = .sheet := by
  obtain ⟨fault, rfl⟩ := h
  rfl

theorem Error.OnLine.blames (h : OnLine line err) : Blames line err := by
  obtain ⟨fault, rfl⟩ := h
  exact ⟨.inl ⟨rfl, rfl⟩, fault.message, rfl⟩

theorem Error.blames_onLine (line : Nat) (fault : SheetFault) : Blames line (.onLine line fault) :=
  OnLine.blames ⟨fault, rfl⟩

theorem Error.blames_unsupportedKind (line : Nat) (kind : String) :
    Blames line (.unsupportedKind line kind) := by
  refine ⟨.inr rfl, "unsupported record kind " ++ Text.quoted kind, ?_⟩
  have hwords : ": unsupported record kind " = ": " ++ "unsupported record kind " := rfl
  change "line " ++ toString line ++ ": unsupported record kind " ++ Text.quoted kind = _
  rw [hwords]
  simp only [String.append_assoc]

theorem Error.Blames.refusal (h : Blames line err) : err.Refusal :=
  h.kind.imp_left And.left

theorem Error.Refusal.ofTraverse (h : err.Refusal) : err.family.ofTraverse = true := by
  rcases h with h | h <;> rw [h] <;> rfl

end Errors

namespace Sheet

theorem Reading.failsIn_bind {α β : Type} {p : Error → Prop} {r : Reading α} {f : α → Reading β}
    (hr : FailsIn p r.result) (hf : ∀ a, FailsIn p (f a).result) :
    FailsIn p (r.bind f).result := by
  unfold Reading.bind
  split
  · next err he => exact .error (hr err he)
  · exact hf _

/-! ## Data lines -/

section DataLines

variable {f : SheetFormat} {marker suffix : String}

/-- A cell is at fault where it is to be a number and is none, and for no other reason. -/
theorem onLine_cellValue (hm : f.marker = .text marker) (line : Nat) (field : Field)
    (cell : String) : FailsIn (OnLine line) (cellValue f line field cell) := by
  refine .ite (.ok _) ?_
  rw [referred?, hm]
  refine (FailsIn.ok (Value.nameIn? marker cell)).bind fun name? => ?_
  cases name? with
  | some name => exact .ok _
  | none =>
    refine .ite (.ok _) (.ite ?_ (.ok _))
    split
    · exact .ok _
    · exact .error ⟨_, rfl⟩

theorem onLine_columnValue (hm : f.marker = .text marker) (line : Nat) (field : Field)
    (takesRest : Bool) (cells : List String) :
    FailsIn (OnLine line) (columnValue f line field takesRest cells) := by
  refine .ite (FailsIn.mapM (onLine_cellValue hm line field) _).map ?_
  split
  · exact .ok _
  · refine (onLine_cellValue hm line field _).bind fun v => ?_
    split <;> exact .ok _

/-- Where the suffix is a text, every name is that of a column. -/
theorem exists_columnOf (hs : f.restSuffix = .text suffix) (isLast : Bool) (name : String) :
    ∃ column, columnOf f isLast name = .ok column := by
  rw [columnOf, hs]
  split
  · dsimp only
    split <;> exact ⟨_, rfl⟩
  · exact ⟨_, rfl⟩

theorem onLine_fieldsOf (hm : f.marker = .text marker) (hs : f.restSuffix = .text suffix)
    (line : Nat) (kind : Kind) (columns : List String) (given : Table Field Value)
    (cells : List String) :
    FailsIn (OnLine line) (fieldsOf f line kind given columns cells).result := by
  induction columns generalizing given cells with
  | nil => exact .ok _
  | cons name columns ih =>
    obtain ⟨column, hcolumn⟩ := exists_columnOf hs columns.isEmpty name
    rw [fieldsOf, hcolumn]
    dsimp only
    split
    · exact ih _ _
    · split
      · next err he => exact .error (onLine_columnValue hm _ _ _ _ err he)
      · exact ih _ _
      · exact ih _ _

theorem blames_callOf (hm : f.marker = .text marker) (hs : f.restSuffix = .text suffix) (line : Nat)
    (kind : String) (columns cells : List String) :
    FailsIn (Blames line) (callOf f line kind columns cells).result := by
  unfold callOf
  split
  · exact .error (Error.blames_unsupportedKind _ _)
  · refine Reading.failsIn_bind ((onLine_fieldsOf hm hs _ _ _ _ _).mono fun _ => OnLine.blames)
      fun given => ?_
    split
    · exact .ok _
    · exact .error (Error.blames_onLine _ _)

theorem onLine_rowOfCells (line : Nat) (cells : List String) :
    FailsIn (OnLine line) (rowOfCells f line cells) := by
  refine .ite ?_ (.ok _)
  split
  · exact .error ⟨_, rfl⟩
  · exact .ite (.error ⟨_, rfl⟩) (.ok _)

end DataLines

/-! ## Lines and texts -/

variable {d start tag suffix marker encoding : String}

/-- Where comments begin with a text and cells are cut at one, every line has its cells or is passed
over. -/
theorem exists_cellsOfLine (hd : d.isEmpty = false) (raw : String) :
    ∃ cells?, cellsOfLine (.ofTexts d start tag suffix marker encoding) raw = .ok cells? := by
  have passed : ∃ b, isPassedOver (.ofTexts d start tag suffix marker encoding) (Text.trim raw) =
      .ok b := by
    unfold isPassedOver
    split <;> exact ⟨_, rfl⟩
  have cells : ∃ cs, cellsOf (.ofTexts d start tag suffix marker encoding) (Text.trim raw) =
      .ok cs := by
    simp only [cellsOf, SheetFormat.ofTexts, hd]
    exact ⟨_, rfl⟩
  obtain ⟨b, hb⟩ := passed
  obtain ⟨cs, hcs⟩ := cells
  rw [cellsOfLine, hb, hcs]
  cases b <;> exact ⟨_, rfl⟩

/-- A line of cells is refused only as a header without a kind. -/
theorem blames_rowOf (hd : d.isEmpty = false) (line : Nat) (raw : String) :
    FailsIn (Blames line) (rowOf (.ofTexts d start tag suffix marker encoding) line raw) := by
  obtain ⟨cells?, hcells⟩ := exists_cellsOfLine hd raw
  refine (FailsIn.of_eq_ok hcells).bind fun cells? => ?_
  cases cells? with
  | none => exact .ok _
  | some cells => exact (onLine_rowOfCells line cells).mono fun _ => OnLine.blames

theorem blames_takeLine (hd : d.isEmpty = false) (headers : Headers) (line : Nat) (raw : String) :
    FailsIn (Blames line)
      (takeLine (.ofTexts d start tag suffix marker encoding) headers line raw).result := by
  unfold takeLine
  split
  · next err he => exact .error (blames_rowOf hd _ _ err he)
  · exact .ok _
  · exact .ok _
  · split
    · exact .error (Error.blames_onLine _ _)
    · exact Reading.failsIn_bind (blames_callOf rfl rfl _ _ _ _) fun _ => .ok _

theorem refuses_takeLines (hd : d.isEmpty = false) (raws : List String) (headers : Headers)
    (line : Nat) : FailsIn Refusal
      (takeLines (.ofTexts d start tag suffix marker encoding) headers line raws).result := by
  induction raws generalizing headers line with
  | nil => exact .ok _
  | cons raw rest ih =>
    exact Reading.failsIn_bind (fun _ he => (blames_takeLine hd _ _ _ _ he).refusal) fun _ =>
      Reading.failsIn_bind (ih _ _) fun _ => .ok _

/-- **A text is refused over a line or over the kind of a record.** -/
theorem refuses_parse (hd : d.isEmpty = false) (text : String) :
    FailsIn Refusal (parse (.ofTexts d start tag suffix marker encoding) text).result :=
  Reading.failsIn_bind (refuses_takeLines hd _ _ _) fun _ => .ok _

end Sheet

/-! ## Files -/

namespace Text

/-- Bytes are no UTF-8 at one place, and for a reason. -/
theorem Utf8.read_eq_error {bytes : List UInt8} {err : Error} (h : read bytes = .error err) :
    ∃ place reason, err = .undecodable "utf-8" place reason := by
  have hfrom (position : Nat) (done : List Char) (bytes : List UInt8) :
      FailsIn (fun err => ∃ place reason, err = .undecodable "utf-8" place reason)
        (readFrom position done bytes) := by
    fun_induction readFrom position done bytes with
    | case1 => exact .ok _
    | case2 _ _ _ _ _ _ _ ih => exact ih
    | case3 => exact .error ⟨_, _, rfl⟩
  exact hfrom 0 [] bytes err h

theorem Encoding.ofName?_utf8 : Encoding.ofName? "utf-8" = some .utf8 := by
  have h : (Encoding.ofName? "utf-8").map Encoding.ctorIdx = some 0 := by decide +kernel
  cases he : Encoding.ofName? "utf-8" with
  | none => rw [he] at h; cases h
  | some e =>
    rw [he] at h
    cases e with
    | utf8 => rfl
    | _ => cases h

theorem decodeAs_utf8 (bytes : List UInt8) :
    decodeAs "utf-8" bytes =
      (fun cs => String.ofList (ofCodes (cs.map Char.toNat))) <$> Utf8.read bytes := by
  rw [decodeAs, Encoding.ofName?_utf8]
  cases h : Utf8.read bytes <;> simp only [Encoding.codes, plainCodes, h] <;> rfl

end Text

namespace Sheet

/-- **A file in the usual format is its bytes in UTF-8, parsed.** -/
theorem load_usual (path : String) (bytes : List UInt8) :
    (load .usual path (.ok bytes)).result =
      Text.Utf8.read bytes >>= fun cs =>
        (parse .usual (String.ofList (Text.ofCodes (cs.map Char.toNat)))).result := by
  have hdecode : (do Text.decodeAs (← encodingOf .usual) (← .ok bytes)) =
      Text.decodeAs "utf-8" bytes := rfl
  rw [load, hdecode, Text.decodeAs_utf8]
  cases Text.Utf8.read bytes <;> rfl

end Sheet

end MetesBounds
