import MetesBounds.Procedure
import MetesBounds.Text.Blank

/-!
# `Registry` — the procedures that calls can ask for, by name

A registry is filled before an evaluation and only read during one. A registration is refused
before anything changes; an accepted one puts its entry under exactly its name. A call runs the
entry's procedure only if the name is there and the arguments fit.
-/

set_option autoImplicit false

namespace MetesBounds

/-- A registered procedure. One that needs the traverse is handed it before its arguments. -/
structure Entry where
  procedure : Procedure
  needsTraverse : Bool

/-- What is offered for registration: a procedure, or something that cannot be run. -/
inductive Candidate where
  | procedure (p : Procedure)
  | other (shown : String)

/-- Procedures by name. -/
structure Registry where
  entries : Table String Entry

namespace Registry

/-- The registry that holds no procedure. -/
def empty : Registry := ⟨.empty⟩

/-- The number of procedures. -/
def size (r : Registry) : Nat := r.entries.size

/-- The entry under a name. -/
def get? (r : Registry) (name : String) : Option Entry := r.entries.get? name

/-- The names, in order. -/
def names (r : Registry) : List String := r.entries.keys.mergeSort Text.isAtMost

/-- Whether a value is the name of a procedure. -/
def contains (r : Registry) (name : Value) : Except Error Bool :=
  match name with
  | .text name => .ok (r.get? name).isSome
  | v =>
    match v.unkeyed? with
    | some kind => .error (.unhashable kind)
    | none => .ok false

/-- The name that a value gives to a procedure, which is text and not blank. -/
def nameOf (name : Value) : Except Error String :=
  match name with
  | .text s => if s.toList.all Text.isBlank then .error (.procedureName name.shown) else .ok s
  | v => .error (v.blamed .procedureName)

/-- The entry that a registration makes, if it is accepted. -/
def entryOf (r : Registry) (name : Value) (candidate : Candidate) (needsTraverse replace : Bool) :
    Except Error (String × Entry) := do
  let s ← nameOf name
  if (r.get? s).isSome && !replace then .error (.takenName name.shown)
  else
    match candidate with
    | .other shown => .error (.notCallable name.shown shown)
    | .procedure p =>
      if needsTraverse && !(p.signature.parameters?.all Procedure.hasRoom) then
        .error (.noRoomForTraverse name.shown)
      else .ok (s, ⟨p, needsTraverse⟩)

/-- A registry with one more procedure, or with one replaced where that is allowed. -/
def register (r : Registry) (name : Value) (candidate : Candidate)
    (needsTraverse replace : Bool) : Except Error (Registry × Entry) := do
  let (s, e) ← r.entryOf name candidate needsTraverse replace
  return (⟨r.entries.insert s e⟩, e)

/-- Why a value that lists no arguments cannot be taken for some. -/
def notListed (e : Entry) (kind : String) : Error :=
  if e.needsTraverse then .notSpreadable "Value" kind
  else
    match e.procedure.signature with
    | .stated _ => .notARow kind
    | .unstated name => .notSpreadable (name ++ "() argument") kind

/-- The arguments for an entry, if they fit. -/
def arguments (name : String) (e : Entry) (args : Value) : Except Error (List Value) :=
  match args.items? with
  | none => .error (notListed e args.kindName)
  | some items =>
    match e.procedure.signature with
    | .unstated _ => .ok items
    | .stated parameters =>
      let count := if e.needsTraverse then items.length + 1 else items.length
      match Procedure.misfit? parameters count with
      | some why => .error (.misfit name items.length why)
      | none => .ok items

/-- The entry that a value names. -/
def find (r : Registry) (name : Value) : Except Error (String × Entry) :=
  match name with
  | .text s =>
    match r.get? s with
    | some e => .ok (s, e)
    | none => .error (.unknownProcedure s)
  | v =>
    match v.unkeyed? with
    | some kind => .error (.unhashable kind)
    | none => .error (v.blamedPlain .unknownProcedure)

/-- Runs an entry with arguments that fit. -/
def run (e : Entry) (items : List Value) : Effect Value := fun t =>
  e.procedure.run (if e.needsTraverse then .running t.written? :: items else items) t

/-- Calls a procedure by name. -/
def call (r : Registry) (name args : Value) : Effect Value := fun t =>
  match r.find name with
  | .error e => (.error e, t)
  | .ok (s, e) =>
    match arguments s e args with
    | .error e => (.error e, t)
    | .ok items => run e items t

end Registry

end MetesBounds
