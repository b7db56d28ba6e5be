import MetesBounds.Error
import MetesBounds.Text.Pieces

/-!
# `Marker` — what tells references from other texts

A text refers to what is bound under a name if it begins with the marker; the name is the rest of
it. The marker is itself a value. Nothing is marked where it says nothing. A row of texts marks a
text that begins with any of them, and then as many characters are cut off as the row has texts.
Any other value is no marker, which is noticed only when there is a text to look at.
-/

set_option autoImplicit false

namespace MetesBounds.Value

/-- The name in a text that begins with a marker. An empty marker marks nothing. -/
def nameIn? (marker s : String) : Option String :=
  if marker.isEmpty then none else Text.afterStart? marker s

theorem nameIn?_eq_some {marker s name : String} :
    nameIn? marker s = some name ↔ marker ≠ "" ∧ s = marker ++ name := by
  rw [nameIn?]
  by_cases h : marker = ""
  · simp [h]
  · rw [if_neg (by rwa [String.isEmpty_iff]), Text.afterStart?]
    simp only [Option.map_eq_some_iff, Text.after?_eq_some_iff, ne_eq, h, not_false_eq_true,
      true_and]
    constructor
    · rintro ⟨rest, hs, rfl⟩
      rw [← String.toList_inj, String.toList_append, String.toList_ofList, hs]
    · rintro rfl
      exact ⟨name.toList, String.toList_append, String.ofList_toList⟩

/-- Whether a text begins with one of some values, tried in order. -/
def startsAmong (s : String) : List Value → Except Error Bool
  | [] => .ok false
  | .text start :: rest => if Text.beginsWith start s then .ok true else startsAmong s rest
  | v :: _ => .error (.notAStartItem v.kindName)

/-- A text without its first characters. -/
def afterFirst (count : Nat) (s : String) : String :=
  String.ofList (Text.ofCodes ((Text.codes s).drop count))

/-- The name in a text that is marked. -/
def markedName? (marker : Value) (s : String) : Except Error (Option String) :=
  match marker with
  | .text start => .ok (nameIn? start s)
  | .row starts => do
    return if ← startsAmong s starts then some (afterFirst starts.length s) else none
  | v => if v.isVoid then .ok none else .error (.notAStart v.kindName)

/-- A text that is marked refers to what is bound under the rest of it. Any other value is
itself. -/
def marked (v marker : Value) : Except Error Value :=
  match v with
  | .text s => do
    match ← markedName? marker s with
    | some name => return .reference name
    | none => return v
  | v => .ok v

end MetesBounds.Value
