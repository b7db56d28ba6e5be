/-!
# `Text/CodeRanges` — a class of characters as ranges of codes
-/

set_option autoImplicit false

namespace MetesBounds.Text

/-- A class of characters, given by closed ranges of their codes. -/
abbrev CodeRanges := List (Nat × Nat)

/-- Whether a code belongs to the class. -/
def CodeRanges.includes (ranges : CodeRanges) (n : Nat) : Bool :=
  ranges.any fun r => r.1 ≤ n && n ≤ r.2

/-- Whether a character belongs to the class. -/
def CodeRanges.contains (ranges : CodeRanges) (c : Char) : Bool := ranges.includes c.toNat

end MetesBounds.Text
