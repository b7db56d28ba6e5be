import MetesBounds.Error
import MetesBounds.Table

/-!
# `Log/Threshold` — from which level on a part is heard

Every part that reports has a threshold, which is set when it is first asked for and changed only
when a level is named. Levels are numbers, or names of them.
-/

set_option autoImplicit false

namespace MetesBounds

/-- The levels that have names. -/
def levelNames : List (String × Int) := [
  ("CRITICAL", 50), ("FATAL", 50), ("ERROR", 40), ("WARN", 30), ("WARNING", 30), ("INFO", 20),
  ("DEBUG", 10), ("NOTSET", 0)
]

/-- The threshold of a part that no level is named for. -/
def usualThreshold : Number := .whole 20

/-- The threshold that a value names. -/
def thresholdOf : Value → Except Error Number
  | .number (.whole n) => .ok (.whole n)
  | .number (.truth b) => .ok (.truth b)
  | .text name =>
    match levelNames.find? fun e => e.1 == name with
    | some e => .ok (.whole e.2)
    | none => .error (.unknownLevel (Text.quoted name))
  | v => .error (v.blamed .notALevel)

/-- The thresholds of parts by name. -/
abbrev Thresholds := Table String Number

/-- Asks for a part, naming a level for it or nothing. A level that is none leaves a new part
without a threshold of its own, and an old one as it is. -/
def Thresholds.ask (t : Thresholds) (name : String) (level : Value) :
    Except Error Number × Thresholds :=
  let before := t.get? name
  match level, before with
  | .nothing, some n => (.ok n, t)
  | .nothing, none => (.ok usualThreshold, t.insert name usualThreshold)
  | level, before =>
    match thresholdOf level with
    | .ok n => (.ok n, t.insert name n)
    | .error e => (.error e, t.insert name (before.getD (.whole 0)))

end MetesBounds
