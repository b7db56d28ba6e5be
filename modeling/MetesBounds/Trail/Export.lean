import MetesBounds.Error
import MetesBounds.Trail

/-!
# `Trail/Export` — a run in numbers, and as a document

The summary of a run counts its steps by kind, in the order in which the kinds came up. The
document of a run is its summary with all its steps.
-/

set_option autoImplicit false

namespace MetesBounds

namespace AuditRun

/-- A count with one more of a kind. -/
def countKind (counts : Table String Nat) (kind : String) : Table String Nat :=
  counts.insert kind ((counts.get? kind).getD 0 + 1)

/-- How many steps there are of each kind. -/
def kindCounts (r : AuditRun) : Table String Nat :=
  r.steps.foldl (fun counts s => countKind counts s.kind) .empty

/-- A text that may be absent. -/
def optional : Option String → Json
  | some s => Json.ofString s
  | none => .null

/-- One step as a document. -/
def stepJson (s : AuditStep) : Json :=
  .object [
    ("timestamp".toList, Json.ofString s.time),
    ("index".toList, Json.ofInt s.index),
    ("label".toList, Json.ofString s.label),
    ("kind".toList, Json.ofString s.kind),
    ("result".toList, Json.ofString s.result),
    ("produced_point".toList, .truth s.producedPoint)]

/-- The counts of kinds as a document. -/
def countsJson (counts : Table String Nat) : Json :=
  .object (counts.entries.map fun e => (e.1.toList, Json.ofInt e.2))

/-- A run as a document. -/
def toJson (r : AuditRun) : Json :=
  .object [
    ("run_id".toList, Json.ofString r.id),
    ("config_hash".toList, Json.ofString r.configHash),
    ("start_time".toList, Json.ofString r.startTime),
    ("end_time".toList, optional r.endTime),
    ("record_count".toList, Json.ofInt r.recordCount),
    ("point_count".toList, Json.ofInt r.pointCount),
    ("records_by_kind".toList, countsJson r.kindCounts),
    ("error".toList, optional r.error),
    ("steps".toList, .array (r.steps.map stepJson))]

end AuditRun

namespace Trail

/-- The run that a name stands for, or the error that there is none. -/
def find (t : Trail) (id : String) : Except Error AuditRun :=
  match t.run? id with
  | some r => .ok r
  | none => .error (.noRun id)

/-- The document of a run, and what its export to a file reports. -/
def export? (t : Trail) (id path : String) : Except Error (String × List Line) := do
  let r ← t.find id
  return (r.toJson.indented, [line .info ("Exported audit artifacts to " ++ path)])

end Trail

end MetesBounds
