import MetesBounds.Text.Encoding.Units

/-!
# `Text/Encoding/Multibyte` — reading bytes of which several make a character

The encodings of East Asia mix characters of one byte with others of two, three, four or eight;
some of them switch between sets of characters as they go. Each is a step that says what the bytes
from some place on begin with. Bytes that cannot begin a character are refused, and so are too few
bytes at the end.
-/

set_option autoImplicit false

namespace MetesBounds.Text

/-- An encoding with characters of several bytes. -/
structure Multibyte where
  name : String
  decode : List UInt8 → Except Error (List Char)

namespace Multibyte

/-- What bytes begin with. -/
inductive Start where
  /-- Characters, none of them where the bytes only switch to another set; and their bytes. -/
  | chars (cs : List Char) (size : Nat)
  /-- Bytes that begin no character. -/
  | illegal (size : Nat)
  /-- Too few bytes. -/
  | incomplete
  /-- Bytes about which nothing is laid down. -/
  | noRule

/-- The characters of bytes, after `position` bytes that stand for `done`, last first. -/
def readFrom {σ : Type} (name : String) (step : σ → UInt8 → List UInt8 → σ × Start) (s : σ)
    (position : Nat) (done : List Char) (bytes : List UInt8) : Except Error (List Char) :=
  let refuse (first : UInt8) (size : Nat) (reason : String) : Except Error (List Char) :=
    .error (.undecodable name (placeOf first position size) reason)
  match bytes with
  | [] => .ok done.reverse
  | b :: rest =>
    match step s b rest with
    | (s, .chars cs size) =>
      readFrom name step s (position + size) (cs.reverse ++ done) (rest.drop (size - 1))
    | (_, .illegal size) => refuse b size "illegal multibyte sequence"
    | (_, .incomplete) => refuse b (rest.length + 1) "incomplete multibyte sequence"
    | (_, .noRule) => .error (.foreign "RuntimeError" "internal codec error")
termination_by bytes.length
decreasing_by simp only [List.length_cons, List.length_drop]; omega

/-- An encoding that switches between sets. -/
def switching {σ : Type} (name : String) (start : σ)
    (step : σ → UInt8 → List UInt8 → σ × Start) : Multibyte :=
  ⟨name, readFrom name step start 0 []⟩

/-- An encoding that does not switch. -/
def plain (name : String) (step : UInt8 → List UInt8 → Start) : Multibyte :=
  switching name () fun _ b rest => ((), step b rest)

/-- The character with a byte as its code. -/
def Start.single (b : UInt8) : Start := .chars [Char.ofNat b.toNat] 1

/-- The characters that `find` has for two bytes. -/
def double (find : Nat → Nat → Option (List Char)) (a : UInt8) (rest : List UInt8) : Start :=
  match rest with
  | [] => .incomplete
  | b :: _ =>
    match find a.toNat b.toNat with
    | some cs => .chars cs 2
    | none => .illegal 1

/-- An encoding that extends ASCII by characters of two bytes. -/
def doubled (name : String) (find : Nat → Nat → Option (List Char)) : Multibyte :=
  plain name fun b rest => if b < 0x80 then .single b else double find b rest

/-- The cell of two bytes in ninety-four rows of ninety-four cells, both with their highest bit
set. -/
def cell94 (a b : Nat) : Option (Nat × Nat) :=
  if 0xA1 ≤ a && 0xA1 ≤ b && a ≤ 0xFE && b ≤ 0xFE then some (a - 0xA1, b - 0xA1) else none

/-- The half-width syllable of a byte. -/
def halfWidth (b : Nat) : Char := Char.ofNat (0xFEC0 + b)

end Multibyte

end MetesBounds.Text
