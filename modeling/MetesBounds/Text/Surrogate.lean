/-!
# `Text/Surrogate` — surrogates without a partner

A text is made of characters, and half of a character of UTF-16 is none. Configurations and sheets
may hold such halves all the same, so they are rows of codes, of which some are no characters.
Seventeen codes that are set aside for use inside of programs serve to hold such a row in a text: a
mark and sixteen digits. A half is held as the mark with three digits after it, and so are the mark
and the digits themselves; any other code is held as its own character.

Main statements: `codesOf_ofCodes` (what is held is found again) and `codesOf_injective` (different
texts hold different rows). As no row of marks and digits begins inside of another, one text begins
or ends with another, or holds it, just where their rows of codes do.
-/

set_option autoImplicit false

namespace MetesBounds.Text

/-! ## Halves -/

/-- Whether a unit of UTF-16 is the first half of a character. -/
def isHighSurrogate (n : Nat) : Bool := 0xD800 ≤ n && n < 0xDC00

/-- Whether a unit of UTF-16 is the second half of a character. -/
def isLowSurrogate (n : Nat) : Bool := 0xDC00 ≤ n && n < 0xE000

/-- Whether a code is that of a half. -/
def isSurrogate (n : Nat) : Bool := 0xD800 ≤ n && n < 0xE000

/-- The code of the character of two halves. -/
def joinedSurrogates (high low : Nat) : Nat := 0x10000 + (high - 0xD800) * 0x400 + (low - 0xDC00)

/-! ## Codes held in texts -/

/-- The code of the digit zero. -/
def heldZero : Nat := 0xFDD0

/-- The code of the mark, which comes after those of the digits. -/
def heldMark : Nat := 0xFDE0

/-- Whether a code is that of the mark or of a digit. -/
def isReserved (n : Nat) : Bool := heldZero ≤ n && n ≤ heldMark

/-- The number below 0x811 that tells which half it is, or which mark or digit. -/
def heldNumber (n : Nat) : Nat := if isSurrogate n then n - 0xD800 else 0x800 + (n - heldZero)

/-- The code that a number tells. -/
def heldCode (v : Nat) : Nat := if v < 0x800 then 0xD800 + v else heldZero + (v - 0x800)

/-- What holds a code. One that is beyond all characters stands for a mark or digit out of place. -/
def heldAs (n : Nat) : List Char :=
  if isSurrogate n || isReserved n then
    let v := heldNumber n
    [heldMark, heldZero + v / 256, heldZero + v / 16 % 16, heldZero + v % 16].map Char.ofNat
  else [Char.ofNat (if n < 0x110000 then n else n - 0x110000)]

/-- The text that holds a row of codes. -/
def ofCodes (codes : List Nat) : List Char := codes.flatMap heldAs

/-- The text that holds a row of characters. -/
def ofChars (cs : List Char) : List Char := ofCodes (cs.map Char.toNat)

/-- The value of a digit. -/
def heldDigit? (c : Char) : Option Nat :=
  if heldZero ≤ c.toNat && c.toNat < heldMark then some (c.toNat - heldZero) else none

/-- The code that a mark and three digits hold. -/
def heldBy? (m a b c : Char) : Option Nat :=
  if m.toNat = heldMark then
    match heldDigit? a, heldDigit? b, heldDigit? c with
    | some i, some j, some k =>
      let v := i * 256 + j * 16 + k
      if v < 0x811 then some (heldCode v) else none
    | _, _, _ => none
  else none

/-- The code of a character that is not held by others. -/
def ownCode (c : Char) : Nat := if isReserved c.toNat then 0x110000 + c.toNat else c.toNat

/-- The codes that a text holds. -/
def codesOf : List Char → List Nat
  | m :: a :: b :: c :: rest =>
    match heldBy? m a b c with
    | some n => n :: codesOf rest
    | none => ownCode m :: codesOf (a :: b :: c :: rest)
  | c :: rest => ownCode c :: codesOf rest
  | [] => []

/-- The codes that a text holds. -/
def codes (s : String) : List Nat := codesOf s.toList

/-! ## What is held is found again -/

theorem isSurrogate_iff {n : Nat} : isSurrogate n = true ↔ 0xD800 ≤ n ∧ n < 0xE000 := by
  simp [isSurrogate]

theorem isReserved_iff {n : Nat} : isReserved n = true ↔ 0xFDD0 ≤ n ∧ n ≤ 0xFDE0 := by
  simp only [isReserved, Bool.and_eq_true, decide_eq_true_eq]
  rfl

theorem isValidChar_of_lt {n : Nat} (h : n < 0x110000) (whole : ¬ isSurrogate n = true) :
    n.isValidChar := by
  rw [isSurrogate_iff] at whole
  unfold Nat.isValidChar
  omega

theorem toNat_ofNat {n : Nat} (h : n.isValidChar) : (Char.ofNat n).toNat = n := by
  rw [Char.ofNat, dif_pos h]
  rfl

theorem toNat_bounds (c : Char) : c.toNat < 0x110000 ∧ ¬ isSurrogate c.toNat = true := by
  have := c.valid
  simp only [UInt32.isValidChar, Nat.isValidChar] at this
  rw [isSurrogate_iff]
  unfold Char.toNat
  omega

theorem toNat_of_heldDigit? {c : Char} {d : Nat} (h : heldDigit? c = some d) :
    d < 16 ∧ 0xFDD0 + d = c.toNat := by
  unfold heldDigit? heldZero heldMark at h
  split at h
  · rename_i bounds
    simp only [Bool.and_eq_true, decide_eq_true_eq] at bounds
    have := Option.some.inj h
    omega
  · cases h

theorem heldDigit?_ofNat {d : Nat} (h : d < 16) :
    heldDigit? (Char.ofNat (heldZero + d)) = some d := by
  have valid : (heldZero + d).isValidChar := by unfold Nat.isValidChar heldZero; omega
  have bounds : heldZero ≤ heldZero + d ∧ heldZero + d < heldMark := by
    unfold heldZero heldMark; omega
  simp [heldDigit?, toNat_ofNat valid, bounds]

theorem heldNumber_heldCode {v : Nat} (h : v < 0x811) : heldNumber (heldCode v) = v := by
  unfold heldNumber heldCode heldZero
  split <;> split <;> rename_i big half <;> rw [isSurrogate_iff] at half <;> omega

theorem isHeld_heldCode {v : Nat} (h : v < 0x811) :
    (isSurrogate (heldCode v) || isReserved (heldCode v)) = true := by
  rw [Bool.or_eq_true, isSurrogate_iff, isReserved_iff]
  unfold heldCode heldZero
  split <;> omega

theorem heldCode_heldNumber {n : Nat} (h : (isSurrogate n || isReserved n) = true) :
    heldNumber n < 0x811 ∧ heldCode (heldNumber n) = n := by
  rw [Bool.or_eq_true, isSurrogate_iff, isReserved_iff] at h
  unfold heldNumber heldCode heldZero
  split <;> rename_i half <;> rw [isSurrogate_iff] at half <;> split <;> omega

theorem heldAs_of_heldBy? {m a b c : Char} {n : Nat} (h : heldBy? m a b c = some n) :
    heldAs n = [m, a, b, c] := by
  unfold heldBy? at h
  split at h
  · rename_i hm
    split at h
    · rename_i i j k hi hj hk
      obtain ⟨hi, ha⟩ := toNat_of_heldDigit? hi
      obtain ⟨hj, hb⟩ := toNat_of_heldDigit? hj
      obtain ⟨hk, hc⟩ := toNat_of_heldDigit? hk
      simp only at h
      split at h
      · rename_i hv
        obtain rfl := Option.some.inj h
        have h₁ : (i * 256 + j * 16 + k) / 256 = i := by omega
        have h₂ : (i * 256 + j * 16 + k) / 16 % 16 = j := by omega
        have h₃ : (i * 256 + j * 16 + k) % 16 = k := by omega
        rw [heldAs, if_pos (isHeld_heldCode hv), heldNumber_heldCode hv]
        simp only [h₁, h₂, h₃, heldZero, ha, hb, hc, ← hm, List.map_cons, List.map_nil,
          Char.ofNat_toNat]
      · cases h
    · cases h
  · cases h

theorem heldAs_ownCode (c : Char) : heldAs (ownCode c) = [c] := by
  have bounds := toNat_bounds c
  unfold ownCode
  split
  · have free : ¬ (isSurrogate (0x110000 + c.toNat) || isReserved (0x110000 + c.toNat)) = true := by
      rw [Bool.or_eq_true, isSurrogate_iff, isReserved_iff]
      omega
    rw [heldAs, if_neg free, if_neg (by omega), Nat.add_sub_cancel_left, Char.ofNat_toNat]
  · rename_i plain
    have free : ¬ (isSurrogate c.toNat || isReserved c.toNat) = true := by
      rw [Bool.or_eq_true]
      exact not_or.2 ⟨bounds.2, plain⟩
    rw [heldAs, if_neg free, if_pos bounds.1, Char.ofNat_toNat]

/-- A text holds its codes as it would hold them from the start. -/
theorem ofCodes_codesOf (cs : List Char) : ofCodes (codesOf cs) = cs := by
  fun_induction codesOf cs with
  | case1 m a b c rest n h ih =>
    have ih : rest = List.flatMap heldAs (codesOf rest) := ih.symm
    simp [ofCodes, heldAs_of_heldBy? h, ← ih]
  | case2 m a b c rest h ih =>
    simp only [ofCodes] at ih
    simp [ofCodes, heldAs_ownCode, ih]
  | case3 c rest h ih =>
    simp only [ofCodes] at ih
    simp [ofCodes, heldAs_ownCode, ih]
  | case4 => rfl

/-- Different texts hold different rows of codes. -/
theorem codesOf_injective {cs ds : List Char} (h : codesOf cs = codesOf ds) : cs = ds := by
  rw [← ofCodes_codesOf cs, h, ofCodes_codesOf]

theorem heldBy?_of_isHeld {n : Nat} (h : (isSurrogate n || isReserved n) = true) :
    heldBy? (Char.ofNat heldMark) (Char.ofNat (heldZero + heldNumber n / 256))
      (Char.ofNat (heldZero + heldNumber n / 16 % 16))
      (Char.ofNat (heldZero + heldNumber n % 16)) = some n := by
  obtain ⟨small, code⟩ := heldCode_heldNumber h
  have mark : (Char.ofNat heldMark).toNat = heldMark := toNat_ofNat (by decide)
  have h₁ : heldNumber n / 256 < 16 := by omega
  have h₂ : heldNumber n / 16 % 16 < 16 := by omega
  have h₃ : heldNumber n % 16 < 16 := by omega
  have sum : heldNumber n / 256 * 256 + heldNumber n / 16 % 16 * 16 + heldNumber n % 16 =
      heldNumber n := by omega
  rw [heldBy?, if_pos mark, heldDigit?_ofNat h₁, heldDigit?_ofNat h₂, heldDigit?_ofNat h₃]
  simp only [sum, if_pos small, code]

theorem codesOf_cons {m : Char} (h : m.toNat ≠ heldMark) (rest : List Char) :
    codesOf (m :: rest) = ownCode m :: codesOf rest := by
  match rest with
  | [] | [_] | [_, _] => simp [codesOf]
  | a :: b :: c :: rest => simp [codesOf, heldBy?, h]

/-- A text that holds codes of characters and halves gives them back. -/
theorem codesOf_ofCodes (ns : List Nat) (h : ∀ n ∈ ns, n < 0x110000) :
    codesOf (ofCodes ns) = ns := by
  induction ns with
  | nil => rfl
  | cons n ns ih =>
    have ih : codesOf (List.flatMap heldAs ns) = ns :=
      ih fun k hk => h k (List.mem_cons_of_mem n hk)
    have small := h n List.mem_cons_self
    by_cases held : (isSurrogate n || isReserved n) = true
    · simp [ofCodes, heldAs, held, codesOf, heldBy?_of_isHeld held, ih]
    · have plain := held
      rw [Bool.or_eq_true, not_or] at plain
      have own := toNat_ofNat (isValidChar_of_lt small plain.1)
      have unmarked : (Char.ofNat n).toNat ≠ heldMark := by
        rw [own]
        intro h
        exact plain.2 (by rw [h]; decide)
      have unheld : ownCode (Char.ofNat n) = n := by rw [ownCode, own, if_neg plain.2]
      simp [ofCodes, heldAs, held, small, codesOf_cons unmarked, unheld, ih]

/-! ## Where halves stand -/

/-- Halves in a text, which cannot be written in UTF-8: the first of them, where it stands, and how
many there are from there on without a gap. -/
structure Halves where
  first : Nat
  position : Nat
  count : Nat

/-- The first halves in a row of codes that do not pass, after `position` codes. -/
def halvesFrom (passes : Nat → Bool) (position : Nat) : List Nat → Option Halves
  | [] => none
  | n :: rest =>
    if isSurrogate n && !passes n then
      some ⟨n, position, (rest.takeWhile isSurrogate).length + 1⟩
    else halvesFrom passes (position + 1) rest

/-- The first halves in a text that do not pass. -/
def halves? (passes : Nat → Bool) (s : String) : Option Halves := halvesFrom passes 0 (codes s)

/-- Whether a row of codes comes before another or is the same. -/
def isAtMostCodes (ms ns : List Nat) : Bool := !ns.lex ms

/-- Whether a text comes before another or is the same: texts are ordered by their codes. -/
def isAtMost (s t : String) : Bool := isAtMostCodes (codes s) (codes t)

end MetesBounds.Text
