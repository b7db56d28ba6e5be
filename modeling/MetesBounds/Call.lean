import MetesBounds.Error

/-!
# `Call` — the calls of a land description

A land description is a list of calls. A *point* call states a fixed point; a *line* call a
straight leg from where the traverse stands; a *curve* call a circular arc that goes on from the
last leg; a *procedure* call asks for a calculation; a *binding* call gives the last result a
name. Fields hold any value: what they have to be is decided when the call is evaluated, after
references are replaced by what they refer to.

`Kind.fields` is the one place that says which fields a kind of call has, in which order, and
which of them may be left out. `Call.entries` and `Call.ofFields` go to and from that view.
-/

set_option autoImplicit false

namespace MetesBounds

/-- The kinds of call. -/
inductive Kind where
  | point | line | curve | procedure | binding
  deriving DecidableEq

/-- The fields that calls have. -/
inductive Field where
  | latitude | longitude | bearing | distance | direction | radius | delta | turnForCenter
  | name | args | memo
  deriving DecidableEq

/-- The name of a field. -/
def Field.label : Field → String
  | latitude => "latitude"
  | longitude => "longitude"
  | bearing => "bearing"
  | distance => "distance"
  | direction => "direction"
  | radius => "radius"
  | delta => "delta"
  | turnForCenter => "turn_for_center"
  | name => "name"
  | args => "args"
  | memo => "memo"

namespace Kind

/-- The letter that stands for a kind. -/
def tag : Kind → String
  | point => "P"
  | line => "L"
  | curve => "C"
  | procedure => "F"
  | binding => "V"

/-- All kinds. -/
def all : List Kind := [point, line, curve, procedure, binding]

/-- The kind that a letter stands for. -/
def ofTag? (s : String) : Option Kind := all.find? fun k => k.tag == s

/-- The name of a kind's record in messages. -/
def recordName : Kind → String
  | point => "PointRecord"
  | line => "LineRecord"
  | curve => "ArcRecord"
  | procedure => "FunctionRecord"
  | binding => "VariableRecord"

/-- The fields of a kind, in order. -/
def fields : Kind → List Field
  | point => [.latitude, .longitude, .memo]
  | line => [.bearing, .distance, .direction, .memo]
  | curve => [.distance, .direction, .radius, .delta, .turnForCenter, .memo]
  | procedure => [.name, .args, .memo]
  | binding => [.name, .memo]

/-- The fields of a kind that have to be given, in order. -/
def required : Kind → List Field
  | point => [.latitude, .longitude]
  | line => [.bearing, .distance]
  | curve => [.distance, .direction, .radius]
  | procedure => [.name]
  | binding => [.name]

/-- The field of a kind that has a name. -/
def fieldOf? (k : Kind) (label : String) : Option Field := k.fields.find? fun f => f.label == label

end Kind

/-- A fixed point. -/
structure PointCall where
  latitude : Value
  longitude : Value
  memo : Value

/-- A straight leg. Direction TRUE walks along the bearing, FALSE the opposite way. -/
structure LineCall where
  bearing : Value
  distance : Value
  direction : Value
  memo : Value

/-- A circular curve: its arc length, the way it bends, its radius, and, where stated, its central
angle and the angle from the incoming tangent to its center. -/
structure CurveCall where
  distance : Value
  direction : Value
  radius : Value
  delta : Value
  turn : Value
  memo : Value

/-- A call of a procedure. -/
structure ProcedureCall where
  name : Value
  args : Value
  memo : Value

/-- A name for the last result. -/
structure BindingCall where
  name : Value
  memo : Value

/-- A call. -/
inductive Call where
  | point (c : PointCall)
  | line (c : LineCall)
  | curve (c : CurveCall)
  | procedure (c : ProcedureCall)
  | binding (c : BindingCall)

namespace Call

/-- The kind of a call. -/
def kind : Call → Kind
  | point _ => .point
  | line _ => .line
  | curve _ => .curve
  | procedure _ => .procedure
  | binding _ => .binding

/-- The memo of a call. -/
def memo : Call → Value
  | point c => c.memo
  | line c => c.memo
  | curve c => c.memo
  | procedure c => c.memo
  | binding c => c.memo

/-- The fields of a call with their values, in order. -/
def entries : Call → List (Field × Value)
  | point c => [(.latitude, c.latitude), (.longitude, c.longitude), (.memo, c.memo)]
  | line c =>
    [(.bearing, c.bearing), (.distance, c.distance), (.direction, c.direction), (.memo, c.memo)]
  | curve c =>
    [(.distance, c.distance), (.direction, c.direction), (.radius, c.radius), (.delta, c.delta),
      (.turnForCenter, c.turn), (.memo, c.memo)]
  | procedure c => [(.name, c.name), (.args, c.args), (.memo, c.memo)]
  | binding c => [(.name, c.name), (.memo, c.memo)]

/-- The label of a kind of call with a memo: the kind's letter and the memo, which has to be
text. -/
def labelWith (k : Kind) : Value → Except Error String
  | .text memo => .ok (k.tag ++ memo)
  | memo => .error (.notALabel memo.kindName)

/-- The label of a call. -/
def label (c : Call) : Except Error String := labelWith c.kind c.memo

/-- A call as messages show it. -/
def shown (c : Call) : String :=
  c.kind.recordName ++ "(" ++
    Text.listed (c.entries.map fun e => e.1.label ++ "=" ++ e.2.shown) ++ ")"

/-- Whether a field of a call cannot be written. -/
def isOverlong (c : Call) : Bool := c.entries.any fun e => e.2.isOverlong

/-- A call as messages show it, if it can be written. -/
def written (c : Call) : Except Error String :=
  if c.isOverlong then .error .overlong else .ok c.shown

/-- The call of a kind with the given fields, where every required one is given. A field that is
not required and not given has its usual value. -/
def ofGiven (k : Kind) (given : Field → Option Value) : Call :=
  let get (f : Field) (usual : Value) : Value := (given f).getD usual
  match k with
  | .point => point ⟨get .latitude .nothing, get .longitude .nothing, get .memo (.text "")⟩
  | .line =>
    line ⟨get .bearing .nothing, get .distance .nothing, get .direction (.text "TRUE"),
      get .memo (.text "")⟩
  | .curve =>
    curve ⟨get .distance .nothing, get .direction .nothing, get .radius .nothing,
      get .delta .nothing, get .turnForCenter .nothing, get .memo (.text "")⟩
  | .procedure => procedure ⟨get .name .nothing, get .args (.row []), get .memo (.text "")⟩
  | .binding => binding ⟨get .name .nothing, get .memo (.text "")⟩

/-- The names of the required fields of a kind that are not given. -/
def missing (k : Kind) (given : Field → Option Value) : List String :=
  (k.required.filter fun f => (given f).isNone).map Field.label

/-- The call of a kind with the given fields, or the names of the required ones that are
missing. -/
def ofFields (k : Kind) (given : Field → Option Value) : Except (List String) Call :=
  match missing k given with
  | [] => .ok (ofGiven k given)
  | names => .error names

/-- A call with every field worked on, in order, until one fails. -/
def mapFields (f : Field → Value → Except Error Value) : Call → Except Error Call
  | point c => do
    let latitude ← f .latitude c.latitude
    let longitude ← f .longitude c.longitude
    return point ⟨latitude, longitude, ← f .memo c.memo⟩
  | line c => do
    let bearing ← f .bearing c.bearing
    let distance ← f .distance c.distance
    let direction ← f .direction c.direction
    return line ⟨bearing, distance, direction, ← f .memo c.memo⟩
  | curve c => do
    let distance ← f .distance c.distance
    let direction ← f .direction c.direction
    let radius ← f .radius c.radius
    let delta ← f .delta c.delta
    let turn ← f .turnForCenter c.turn
    return curve ⟨distance, direction, radius, delta, turn, ← f .memo c.memo⟩
  | procedure c => do
    let name ← f .name c.name
    let args ← f .args c.args
    return procedure ⟨name, args, ← f .memo c.memo⟩
  | binding c => do
    let name ← f .name c.name
    return binding ⟨name, ← f .memo c.memo⟩

end Call

/-- What a traverse is made of: calls, and values that are none and stop the evaluation. -/
inductive Item where
  | call (c : Call)
  | other (v : Value)

end MetesBounds
