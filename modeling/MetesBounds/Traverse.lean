import MetesBounds.Call
import MetesBounds.Marker
import MetesBounds.Table

/-!
# `Traverse` — where an evaluation stands

The state that calls work on: what names are bound to, the points found so far with the stations
that label them, the last two points visited, and the last result. Clearing the points keeps the
position, so a description may begin its output in the middle of a boundary; only a reset forgets
everything.

References are replaced by what they refer to in `Traverse.substitute`, once: what a look-up
returns is not looked at again.
-/

set_option autoImplicit false

namespace MetesBounds

/-! ## Symbols -/

mutual

/-- A value with every number in it written by its value alone, so that `1`, `1.0` and `True` are
the same; what is no number is written as messages show it. -/
def Value.key : Value → String
  | .number n => n.key
  | .point p => "GeoPoint(" ++ p.latitude.key ++ ", " ++ Point.inRows p.longitude.key p.rows ++ ")"
  | .row items => "(" ++ Text.listed (keysOf items) ++ ")"
  | v => v.shown

/-- The items of a row written by their values alone. -/
def keysOf : List Value → List String
  | [] => []
  | v :: rest => v.key :: keysOf rest

end

/-- What a value is bound under. Names are text. A binding call may also use other values, which
no reference can reach; they are told apart by their keys and keep the spelling that they were
first given in, if they can be written. -/
inductive Symbol where
  | named (name : String)
  | other (key plain shown : String) (overlong : Bool)
  deriving DecidableEq

/-- The symbol that a value stands for. -/
def Symbol.ofValue (v : Value) : Except Error Symbol :=
  match v with
  | .text name => .ok (.named name)
  | v =>
    match v.unkeyed? with
    | some kind => .error (.unhashable kind)
    | none => .ok (.other v.key v.plain v.shown v.isOverlong)

/-- Whether two symbols are the same but for their spelling. -/
def Symbol.same : Symbol → Symbol → Bool
  | named a, named b => a == b
  | other a _ _ _, other b _ _ _ => a == b
  | _, _ => false

/-- A symbol as messages show it. -/
def Symbol.shown : Symbol → String
  | named name => Text.quoted name
  | other _ _ shown _ => shown

/-- A symbol as plain text. -/
def Symbol.plain : Symbol → String
  | named name => name
  | other _ plain _ _ => plain

/-- Whether a symbol cannot be written. -/
def Symbol.isOverlong : Symbol → Bool
  | named _ => false
  | other _ _ _ overlong => overlong

/-! ## The state -/

/-- A point of the result, the label of the call that led to it, and the position of that call. -/
structure Station where
  label : String
  point : Point
  index : Int

/-- A station as messages show it. -/
def Station.shown (s : Station) : String :=
  "Station(label=" ++ Text.quoted s.label ++ ", point=" ++ s.point.shown ++ ", record_index=" ++
    toString s.index ++ ")"

/-- Where an evaluation stands. Texts that begin with the marker are references. -/
structure Traverse where
  marker : Value
  symbols : Table Symbol Value
  points : List Point
  stations : List Station
  previous : Option Point
  current : Option Point
  lastResult : Value

namespace Traverse

/-- Where every evaluation begins. -/
def start (marker : Value) : Traverse := ⟨marker, .empty, [], [], none, none, .nothing⟩

/-- A point that may be absent, as a value. -/
def pointValue : Option Point → Value
  | some p => .point p
  | none => .nothing

/-- A value as it stands inside the state, where the state itself is not shown again. -/
def inside (v : Value) : Value := v.mapRunning fun _ => some "..."

/-- The state as messages show it. -/
def shown (t : Traverse) : String :=
  let symbols := t.symbols.entries.map fun e => e.1.shown ++ ": " ++ (inside e.2).shown
  "TraverseContext(symbols=\x7b" ++ Text.listed symbols ++
    "\x7d, points=[" ++ Text.listed (t.points.map Point.shown) ++
    "], stations=[" ++ Text.listed (t.stations.map Station.shown) ++
    "], previous_point=" ++ (pointValue t.previous).shown ++
    ", current_point=" ++ (pointValue t.current).shown ++
    ", last_result=" ++ (inside t.lastResult).shown ++
    ", reference_marker=" ++ t.marker.shown ++ ")"

/-- Whether anything that the state holds cannot be written. -/
def isOverlong (t : Traverse) : Bool :=
  t.symbols.entries.any (fun e => e.1.isOverlong || (inside e.2).isOverlong) ||
    (inside t.lastResult).isOverlong || t.marker.isOverlong

/-- The state as messages show it, if it can be written. -/
def written? (t : Traverse) : Option String := if t.isOverlong then none else some t.shown

/-- A value in which the state, wherever it stands, is shown as it is now. -/
def refresh (t : Traverse) (v : Value) : Value := v.mapRunning fun _ => t.written?

/-- Binds a value under a symbol. A symbol that is the same as an earlier one keeps the spelling of
that one. -/
def bind (t : Traverse) (s : Symbol) (v : Value) : Traverse :=
  { t with symbols := t.symbols.insert ((t.symbols.keys.find? s.same).getD s) v }

/-- What is bound under a name. -/
def lookup (t : Traverse) (name : String) : Except Error Value :=
  match t.symbols.get? (.named name) with
  | some v => .ok (t.refresh v)
  | none => .error (.unresolved name)

/-- What is bound under a value: a text is a name, and any other value is the same symbol as those
of its key. -/
def lookupValue (t : Traverse) (v : Value) : Except Error Value :=
  match v with
  | .text name => t.lookup name
  | v => do
    let s ← Symbol.ofValue v
    match t.symbols.entries.find? fun e => s.same e.1 with
    | some e => return t.refresh e.2
    | none => .error (v.blamedPlain .unresolved)

/-- Adds a point to the result and moves on to it. -/
def advance (t : Traverse) (p : Point) (label : String) (index : Int) : Traverse :=
  { t with
    points := t.points ++ [p]
    stations := t.stations ++ [⟨label, p, index⟩]
    previous := t.current
    current := some p }

/-- Empties the result; the position is kept. -/
def clearPoints (t : Traverse) : Traverse := { t with points := [], stations := [] }

/-- Forgets everything but the marker. -/
def reset (t : Traverse) : Traverse := start t.marker

/-! ## Substitution -/

/-- What a value stands for: a reference for what is bound under its name, any other value for
itself. -/
def resolve (t : Traverse) (v : Value) : Except Error Value := do
  match ← v.marked t.marker with
  | .reference name => t.lookup name
  | v => return v

/-- What a field stands for: of a row every item is resolved, and of a memo nothing else. -/
def resolveField (t : Traverse) (f : Field) (v : Value) : Except Error Value :=
  match v with
  | .row items => do return .row (← items.mapM t.resolve)
  | v => if f = .memo then .ok v else t.resolve v

/-- A call with every reference replaced by what it refers to, or the first reference in the order
of fields that refers to nothing. -/
def substitute (t : Traverse) (c : Call) : Except Error Call := c.mapFields t.resolveField

/-- The name that a value refers to. -/
def referent? (t : Traverse) (v : Value) : Option String :=
  match v.marked t.marker with
  | .ok (.reference name) => some name
  | _ => none

/-- Whether a value is bound under its own spelling, so that replacing it changes nothing. -/
def keepsItem (t : Traverse) (v : Value) : Bool :=
  match t.referent? v with
  | some name =>
    match v, t.symbols.get? (.named name) with
    | .text s, some (.text r) => s == r
    | .reference s, some (.reference r) => s == r
    | _, _ => false
  | none => true

/-- Whether a value is a text of one of the first 256 characters. Such a text is the same text
wherever it stands. -/
def isCharacter : Value → Bool
  | .text s =>
    match s.toList with
    | [c] => c.toNat < 256
    | _ => false
  | _ => false

/-- Whether a field holds no reference that a substitution would replace. A single character that
refers to itself is not replaced. -/
def keepsField (t : Traverse) (f : Field) (v : Value) : Bool :=
  match v with
  | .row items => items.all t.keepsItem
  | v => f == .memo || (t.referent? v).isNone || (isCharacter v && t.keepsItem v)

/-- Whether a substitution leaves a call as it is. -/
def keeps (t : Traverse) (c : Call) : Bool := c.entries.all fun e => t.keepsField e.1 e.2

end Traverse

end MetesBounds
