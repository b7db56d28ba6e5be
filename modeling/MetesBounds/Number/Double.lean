import MetesBounds.Error

/-!
# `Number/Double` — numbers as doubles, or the error that one is too large
-/

set_option autoImplicit false

namespace MetesBounds

/-- A whole number as a double. -/
def doubleOfInt (n : Int) : Except Error Float :=
  match Binary64.ofInt? n with
  | some x => .ok x
  | none => .error .tooLarge

/-- A number as a double. -/
def Number.toFloat (n : Number) : Except Error Float :=
  match n.toFloat? with
  | some x => .ok x
  | none => .error .tooLarge

end MetesBounds
