import MetesBounds.Traverse

/-!
# `Procedure` — what a procedure call can ask for

A procedure takes values and gives one; it may also work on the traverse. Its parameters say which
arguments fit. A procedure that does not state its parameters is run with any arguments.
-/

set_option autoImplicit false

namespace MetesBounds

/-- Something done to a traverse. What was done before a failure stays done. -/
abbrev Effect (α : Type) := Traverse → Except Error α × Traverse

/-- What a parameter takes. -/
inductive Role where
  /-- One argument, which has to be given. -/
  | required
  /-- One argument, which may be left out. -/
  | optional
  /-- All arguments that are left. -/
  | rest
  /-- An argument that has to be given by name, which calls cannot do. -/
  | byName
  /-- An argument that may be given by name, or all that are. -/
  | optionalByName
  deriving DecidableEq

/-- Whether a parameter takes arguments by their place. -/
def Role.isPlaced : Role → Bool
  | required | optional | rest => true
  | byName | optionalByName => false

/-- A parameter. -/
structure Parameter where
  name : String
  role : Role

/-- What is known of the arguments that a procedure takes. -/
inductive Signature where
  /-- The parameters are stated. -/
  | stated (parameters : List Parameter)
  /-- Nothing is stated; messages about the arguments call the procedure by its own name. -/
  | unstated (name : String)

/-- The parameters, `none` where they are not stated. -/
def Signature.parameters? : Signature → Option (List Parameter)
  | stated parameters => some parameters
  | unstated _ => none

/-- A procedure. -/
structure Procedure where
  signature : Signature
  run : List Value → Effect Value

namespace Procedure

/-- The first parameter that has to be given by name. -/
def needsName? : List Parameter → Option Misfit
  | [] => none
  | p :: rest => if p.role = .byName then some (.missing p.name) else needsName? rest

/-- Why a number of arguments does not fit some parameters, `none` where it fits. -/
def misfit? : List Parameter → Nat → Option Misfit
  | [], 0 => none
  | [], _ + 1 => some .tooMany
  | p :: rest, n =>
    match p.role, n with
    | .required, 0 => some (.missing p.name)
    | .required, n + 1 => misfit? rest n
    | .optional, 0 => needsName? rest
    | .optional, n + 1 => misfit? rest n
    | .rest, _ => needsName? rest
    | .byName, 0 => some (.missing p.name)
    | .byName, _ + 1 => some .tooMany
    | .optionalByName, 0 => needsName? rest
    | .optionalByName, _ + 1 => some .tooMany

/-- Whether some parameters leave room for one argument. -/
def hasRoom : List Parameter → Bool
  | [] => false
  | p :: _ => p.role.isPlaced

/-- A procedure of values alone, with parameters that all have to be given. -/
def ofValues (names : List String) (f : List Value → Except Error Value) : Procedure where
  signature := .stated (names.map fun name => ⟨name, .required⟩)
  run args t := (f args, t)

/-- A procedure that only works on the traverse, which it is handed as its argument; `part` is
what it asks of the argument. -/
def onTraverse (part : String) (f : Traverse → Traverse) : Procedure where
  signature := .stated [⟨"context", .required⟩]
  run args t :=
    match args with
    | .running _ :: _ => (.ok .nothing, f t)
    | v :: _ => (.error (.noSuchPart v.kindName part), t)
    | [] => (.error (.noSuchPart "NoneType" part), t)

end Procedure

end MetesBounds
