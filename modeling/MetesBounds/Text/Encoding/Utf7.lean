import MetesBounds.Text.Encoding.Units

/-!
# `Text/Encoding/Utf7` — Unicode in seven bits

Characters of ASCII stand for themselves. A plus sign opens a run of digits to the base 64, which
hold the units of UTF-16, six bits each; the run ends where a byte is no digit, and a minus sign
there is left out. A plus sign itself is written with a minus sign after it.
-/

set_option autoImplicit false

namespace MetesBounds.Text

namespace Utf7

/-- The bits that a digit stands for. -/
def digit? (b : UInt8) : Option Nat :=
  let n := b.toNat
  if 0x41 ≤ n && n ≤ 0x5A then some (n - 0x41)
  else if 0x61 ≤ n && n ≤ 0x7A then some (n - 0x61 + 26)
  else if 0x30 ≤ n && n ≤ 0x39 then some (n - 0x30 + 52)
  else if n = 0x2B then some 62
  else if n = 0x2F then some 63
  else none

/-- A run of digits: where it was opened, how many there are, the bits that belong to no unit yet,
their number, and the half of a character that waits for the other. -/
structure Run where
  opened : Nat
  digits : Nat
  bits : Nat
  count : Nat
  half : Option Nat

/-- A run without digits. -/
def Run.empty (opened : Nat) : Run := ⟨opened, 0, 0, 0, none⟩

/-- What a unit completes, last first, where a half may wait, and what waits then. -/
def unitCodes (half : Option Nat) (n : Nat) : List Nat × Option Nat :=
  match half with
  | some high =>
    if isLowSurrogate n then ([joinedSurrogates high n], none)
    else if isHighSurrogate n then ([high], some n)
    else ([n, high], none)
  | none => if isHighSurrogate n then ([], some n) else ([n], none)

/-- A run after one more digit, with the codes that are complete, last first. -/
def Run.take (r : Run) (d : Nat) : List Nat × Run :=
  let bits := r.bits * 64 + d
  let count := r.count + 6
  if count < 16 then ([], { r with digits := r.digits + 1, bits, count })
  else
    let left := count - 16
    let (ns, half) := unitCodes r.half (bits / Nat.pow 2 left)
    (ns, ⟨r.opened, r.digits + 1, bits % Nat.pow 2 left, left, half⟩)

/-- Why bytes cannot be read. -/
def refuse {α : Type} (first : UInt8) (position size : Nat) (reason : String) : Except Error α :=
  .error (.undecodable "utf7" (placeOf first position size) reason)

/-- The codes, last first, that the end of a run adds, given the byte after it and the
position of that. Bits that are left over must be fewer than those of a digit, and zero. -/
def Run.close (r : Run) (b : UInt8) (position : Nat) : Except Error (List Nat) :=
  let bad (reason : String) : Except Error (List Nat) :=
    refuse 0x2B r.opened (position + 1 - r.opened) reason
  if r.digits = 0 then if b == 0x2D then .ok [0x2B] else bad "ill-formed sequence"
  else if 6 ≤ r.count then bad "partial character in shift sequence"
  else if 0 < r.bits then bad "non-zero padding bits in shift sequence"
  else .ok (if b < 0x80 then r.half.toList else [])

/-- Whether a run may end with the bytes. -/
def Run.isComplete (r : Run) : Bool := r.half.isNone && r.count < 6 && r.bits == 0

/-- The code of a byte outside of runs. -/
def outside (b : UInt8) (position : Nat) : Except Error Nat :=
  if b < 0x80 then .ok b.toNat
  else refuse b position 1 "unexpected special character"

/-- The codes of bytes, after `position` bytes that stand for `done`, last first, and with the
run that is open, if any. -/
def readFrom (run : Option Run) (position : Nat) (done : List Nat) :
    List UInt8 → Except Error (List Nat)
  | [] =>
    match run with
    | some r =>
      if r.isComplete then .ok done.reverse
      else refuse 0x2B r.opened (position - r.opened) "unterminated shift sequence"
    | none => .ok done.reverse
  | b :: rest =>
    match run, digit? b with
    | some r, some d =>
      let (ns, r) := r.take d
      readFrom (some r) (position + 1) (ns ++ done) rest
    | some r, none => do
      let done := (← r.close b position) ++ done
      if b == 0x2D then readFrom none (position + 1) done rest
      else readFrom none (position + 1) ((← outside b position) :: done) rest
    | none, _ =>
      if b == 0x2B then readFrom (some (.empty position)) (position + 1) done rest
      else do readFrom none (position + 1) ((← outside b position) :: done) rest

/-- The codes of bytes. -/
def read (bytes : List UInt8) : Except Error (List Nat) := readFrom none 0 [] bytes

end Utf7

end MetesBounds.Text
