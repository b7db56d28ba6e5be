import MetesBounds.Call
import MetesBounds.Decimal.Reader
import MetesBounds.Log
import MetesBounds.Marker
import MetesBounds.Sheet.Column
import MetesBounds.Table
import MetesBounds.Text.Encoding
import MetesBounds.Text.Lines

/-!
# `Sheet` — calls read from a delimited text

A call sheet has a line for every call: its kind and its cells. A header line before it says which
field each column of a kind holds; the last column of a header may take all cells that are left.
Blank lines and comments are passed over. A line therefore depends on itself and on the headers
before it, and `Sheet.takeLine` is all there is to reading one.

Main definitions: `Sheet.callOf` (the call of a data line), `Sheet.takeLine` (one line),
`Sheet.parse` (a text), `Sheet.load` (a file).
-/

set_option autoImplicit false

namespace MetesBounds

/-- A part of how a sheet is written. It is meant to be a text. -/
inductive SheetFormat.Part where
  | text (s : String)
  | absent
  /-- Something of another kind, which says something or nothing. -/
  | other (kind : String) (isVoid : Bool)

/-- How a sheet is written. A part that is no text is noticed where it is looked at, and no
delimiter at all stands for white space. -/
structure SheetFormat where
  delimiter : SheetFormat.Part
  commentStart : SheetFormat.Part
  headerTag : SheetFormat.Part
  restSuffix : SheetFormat.Part
  marker : SheetFormat.Part
  encoding : SheetFormat.Part

namespace SheetFormat

/-- A value as a part of how a sheet is written. -/
def Part.ofValue : Value → Part
  | .text s => text s
  | .nothing => absent
  | v => other v.kindName v.isVoid

/-- The kind of a part, as messages name it. -/
def Part.kindName : Part → String
  | text s => (Value.text s).kindName
  | absent => Value.nothing.kindName
  | other kind _ => kind

/-- How a sheet is written, in texts. -/
def ofTexts (delimiter commentStart headerTag restSuffix marker encoding : String) : SheetFormat :=
  ⟨.text delimiter, .text commentStart, .text headerTag, .text restSuffix, .text marker,
    .text encoding⟩

/-- How sheets are written where nothing else is said. -/
def usual : SheetFormat := ofTexts "," "#" "H" "..." "$" "utf-8"

/-- The names of the parts, in order. -/
def names : List String :=
  ["delimiter", "comment_prefix", "header_tag", "rest_suffix", "reference_marker", "encoding"]

/-- How a sheet is written, from named parts; what is not named is as usual. -/
def ofEntries (given : List (String × Part)) : Except Error SheetFormat :=
  match given.find? fun e => !names.contains e.1 with
  | some e => .error (.strayField "RecordFileConfig" e.1)
  | none =>
    let get (name : String) (usual : Part) : Part :=
      ((given.find? fun e => e.1 == name).map Prod.snd).getD usual
    .ok ⟨get "delimiter" usual.delimiter, get "comment_prefix" usual.commentStart,
      get "header_tag" usual.headerTag, get "rest_suffix" usual.restSuffix,
      get "reference_marker" usual.marker, get "encoding" usual.encoding⟩

end SheetFormat

namespace Sheet

/-- The columns that the last header of each kind has declared, the kind's own first. -/
abbrev Headers := Table String (List String)

/-- What is read, or why not, and what is logged on the way. -/
structure Reading (α : Type) where
  result : Except Error α
  log : List Line

namespace Reading

variable {α β : Type}

/-- Something read without a word. -/
def pure (a : α) : Reading α := ⟨.ok a, []⟩

/-- A failure. -/
def fail (e : Error) : Reading α := ⟨.error e, []⟩

/-- A reading that goes on from another. -/
def bind (r : Reading α) (f : α → Reading β) : Reading β :=
  match r.result with
  | .error e => ⟨.error e, r.log⟩
  | .ok a =>
    let s := f a
    ⟨s.result, r.log ++ s.log⟩

end Reading

instance : Monad Reading where
  pure := Reading.pure
  bind := Reading.bind

/-- A line of the log. -/
def note (level : Level) (message : String) : Line := ⟨.sheet, level, message⟩

/-! ## Cells -/

/-- The fields whose plain cells are numbers. -/
def isNumeric : Field → Bool
  | .latitude | .longitude | .distance | .radius | .turnForCenter => true
  | _ => false

/-- The fields that an empty cell leaves open. -/
def isOptional : Field → Bool
  | .delta | .turnForCenter => true
  | _ => false

/-- The name in a cell that begins with the marker. -/
def referred? (f : SheetFormat) (cell : String) : Except Error (Option String) :=
  match f.marker with
  | .text marker => .ok (Value.nameIn? marker cell)
  | .absent => .ok none
  | .other kind isVoid => if isVoid then .ok none else .error (.notAStart kind)

/-- What a cell says for a field: a memo is text as it stands, a reference is one for any other
field, and numbers are read. An empty cell may say nothing. -/
def cellValue (f : SheetFormat) (line : Nat) (field : Field) (cell : String) :
    Except Error Value :=
  if field = .memo then .ok (.text cell)
  else do
    match ← referred? f cell with
    | some name => return .reference name
    | none =>
      if isOptional field && cell.isEmpty then return .nothing
      else if isNumeric field then
        match Decimal.read? cell with
        | some x => return .ofFloat x
        | none => .error (.onLine line (.notANumber field.label (Text.quoted cell)))
      else return .text cell

/-- Cells without the empty ones at the end. -/
def dropEmptyEnd (cells : List String) : List String :=
  (cells.reverse.dropWhile String.isEmpty).reverse

/-! ## Data lines -/

/-- A column as a header declares it: its name, and whether it takes all cells that are left. -/
structure Column where
  name : String
  takesRest : Bool

/-- A column of a header, which is its last or not. Only the last may take the rest; its suffix is
not part of its name, and an empty suffix leaves nothing of the name. -/
def columnOf (f : SheetFormat) (isLast : Bool) (column : String) : Except Error Column :=
  if isLast then
    match f.restSuffix with
    | .text suffix =>
      match Text.beforeEnd? suffix column with
      | some name => .ok ⟨if suffix.isEmpty then "" else name, true⟩
      | none => .ok ⟨column, false⟩
    | part => .error (.notAnEnd part.kindName)
  else .ok ⟨column, false⟩

/-- What the cells from a column's own on say for its field; nothing where the cell is missing or
leaves the field open. -/
def columnValue (f : SheetFormat) (line : Nat) (field : Field) (takesRest : Bool)
    (cells : List String) : Except Error (Option Value) :=
  if takesRest then do
    return some (.row (← (dropEmptyEnd cells).mapM (cellValue f line field)))
  else
    match cells with
    | [] => .ok none
    | cell :: _ => do
      match ← cellValue f line field cell with
      | .nothing => return none
      | v => return some v

/-- The fields that a data line gives, column by column; a later column of the same field counts.
A column that stands for no field of the kind is passed over and reported. -/
def fieldsOf (f : SheetFormat) (line : Nat) (kind : Kind) (given : Table Field Value) :
    List String → List String → Reading (Table Field Value)
  | [], _ => .pure given
  | name :: columns, cells =>
    match columnOf f columns.isEmpty name with
    | .error e => .fail e
    | .ok column =>
    match kind.fieldOf? (columnField column.name) with
    | none =>
      let message :=
        "line " ++ toString line ++ ": ignoring column " ++ Text.quoted column.name ++
          " for kind " ++ kind.tag
      let r := fieldsOf f line kind given columns (cells.drop 1)
      ⟨r.result, note .warning message :: r.log⟩
    | some field =>
      match columnValue f line field column.takesRest cells with
      | .error e => .fail e
      | .ok none => fieldsOf f line kind given columns (cells.drop 1)
      | .ok (some v) => fieldsOf f line kind (given.insert field v) columns (cells.drop 1)

/-- The call of a data line, from the columns of its header and its own cells. -/
def callOf (f : SheetFormat) (line : Nat) (tag : String) (columns cells : List String) :
    Reading Call :=
  match Kind.ofTag? tag with
  | none => .fail (.unsupportedKind line tag)
  | some kind =>
    (fieldsOf f line kind .empty (columns.drop 1) (cells.drop 1)).bind fun given =>
      match Call.ofFields kind given.get? with
      | .ok call => .pure call
      | .error missing => .fail (.onLine line (.incomplete tag kind.recordName missing))

/-! ## Lines -/

/-- Whether a line, without the white space at its ends, is passed over. -/
def isPassedOver (f : SheetFormat) (line : String) : Except Error Bool :=
  if line.isEmpty then .ok true
  else
    match f.commentStart with
    | .text start => .ok (Text.beginsWith start line)
    | part => .error (.notAStart part.kindName)

/-- The cells of a line. -/
def cellsOf (f : SheetFormat) (line : String) : Except Error (List String) :=
  match f.delimiter with
  | .text delimiter =>
    if delimiter.isEmpty then .error .emptyDelimiter
    else .ok ((Text.pieces delimiter line).map Text.trim)
  | .absent => .ok (Text.words line)
  | .other kind _ => .error (.notADelimiter kind)

/-- Whether a cell is the tag of headers. -/
def isHeaderTag (f : SheetFormat) (cell : String) : Bool :=
  match f.headerTag with
  | .text tag => cell = tag
  | _ => false

/-- What a line is. -/
inductive Row where
  | skipped
  | header (kind : String) (columns : List String)
  | data (kind : String) (cells : List String)

/-- The cells of a line, unless it is passed over. -/
def cellsOfLine (f : SheetFormat) (raw : String) : Except Error (Option (List String)) := do
  let text := Text.trim raw
  if ← isPassedOver f text then return none else return some (← cellsOf f text)

/-- What cells are, or why they can be nothing. -/
def rowOfCells (f : SheetFormat) (line : Nat) (cells : List String) : Except Error Row :=
  let kind := cells.headD ""
  if isHeaderTag f kind then
    match cells.drop 1 with
    | [] => .error (.onLine line .headerWithoutKind)
    | declared :: columns =>
      if declared.isEmpty then .error (.onLine line .headerWithoutKind)
      else .ok (.header declared (declared :: columns))
  else .ok (.data kind cells)

/-- What a line is, or why it can be nothing. -/
def rowOf (f : SheetFormat) (line : Nat) (raw : String) : Except Error Row := do
  match ← cellsOfLine f raw with
  | none => return .skipped
  | some cells => rowOfCells f line cells

/-- One line: the headers after it, and the call that it holds. -/
def takeLine (f : SheetFormat) (headers : Headers) (line : Nat) (raw : String) :
    Reading (Headers × Option Call) :=
  match rowOf f line raw with
  | .error e => .fail e
  | .ok .skipped => .pure (headers, none)
  | .ok (.header kind columns) => .pure (headers.insert kind columns, none)
  | .ok (.data kind cells) =>
    match headers.get? kind with
    | none => .fail (.onLine line (.unknownKind kind))
    | some columns => (callOf f line kind columns cells).bind fun call => .pure (headers, some call)

/-- The calls on lines, the first of which has the given number. -/
def takeLines (f : SheetFormat) (headers : Headers) (line : Nat) :
    List String → Reading (List Call)
  | [] => .pure []
  | raw :: rest =>
    (takeLine f headers line raw).bind fun (headers, call) =>
      (takeLines f headers (line + 1) rest).bind fun calls => .pure (call.toList ++ calls)

/-- The calls of a text. -/
def parse (f : SheetFormat) (text : String) : Reading (List Call) :=
  (takeLines f .empty 1 (Text.lines text)).bind fun calls =>
    ⟨.ok calls, [note .info ("Parsed " ++ toString calls.length ++ " records")]⟩

/-- The name of the encoding. Where none is named, it is that of the surroundings. -/
def encodingOf (f : SheetFormat) : Except Error String :=
  match f.encoding with
  | .text "locale" | .absent => .ok "utf-8"
  | .text name =>
    match Text.halves? (fun _ => false) name with
    | some halves => .error (.unencodable halves)
    | none => if name.toList.contains '\x00' then .error .nulInName else .ok name
  | .other kind _ => .error (.notAnEncoding kind)

/-- The calls of a file, given its bytes or why they cannot be read. -/
def load (f : SheetFormat) (path : String) (content : Except Error (List UInt8)) :
    Reading (List Call) :=
  let opening : Reading Unit := ⟨.ok (), [note .info ("Loading records from " ++ path)]⟩
  opening.bind fun _ =>
    match (do Text.decodeAs (← encodingOf f) (← content)) with
    | .error e => .fail e
    | .ok text => parse f text

/-- The line that an error is about, where it names one as its place. -/
def lineOf : Error → Option Nat
  | .onLine line _ => some line
  | _ => none

end Sheet

end MetesBounds
