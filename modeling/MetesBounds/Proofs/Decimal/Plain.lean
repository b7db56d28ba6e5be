import Mathlib.Data.List.TakeWhile
import MetesBounds.Proofs.Angle.Reading
import MetesBounds.Proofs.Text.Joined

/-!
# `Decimal/Plain` — numerals that are plain decimals

A plain decimal is a sign or none, digits of any script, and perhaps a point with more of them or
none behind it. Between white space it is a numeral, and is read as the nearest double. But the
information separators are white space that may not surround a numeral, and a decimal with one of
them next to it is not read.

Main statements: `Decimal.Plain.IsBetween.read?_eq_some` and
`Decimal.Plain.IsBetween.read?_eq_none`.
-/

set_option autoImplicit false

namespace MetesBounds

open Text (IsDigits)

/-! ## Digits -/

namespace Text

variable {c : Char}

theorem exists_zero (h : isDigit c = true) :
    ∃ z ∈ digitZeros, z ≤ c.toNat ∧ c.toNat < z + 10 ∧ digitValue? c = some (c.toNat - z) := by
  obtain ⟨n, hn⟩ := Option.isSome_iff_exists.mp h
  obtain ⟨z, hz, rfl⟩ := Option.map_eq_some_iff.mp hn
  have hrange := List.find?_some hz
  rw [Bool.and_eq_true, decide_eq_true_eq, decide_eq_true_eq] at hrange
  exact ⟨z, List.mem_of_find?_eq_some hz, hrange.1, hrange.2, hn⟩

/-- No digit is white space. -/
theorem isBlank_of_isDigit (h : isDigit c = true) : isBlank c = false := by
  obtain ⟨z, hz, hlow, hhigh, -⟩ := exists_zero h
  have hranges : ∀ z ∈ digitZeros, ∀ r ∈ blankRanges, r.2 < z ∨ z + 10 ≤ r.1 := by decide +kernel
  rw [isBlank, CodeRanges.contains, CodeRanges.includes, List.any_eq_false]
  intro r hr
  have := hranges z hz r hr
  rw [Bool.and_eq_true, decide_eq_true_eq, decide_eq_true_eq]
  omega

theorem isDigit_of_isBlank (h : isBlank c = true) : isDigit c = false := by
  rw [Bool.eq_false_iff]
  intro hdigit
  rw [isBlank_of_isDigit hdigit] at h
  cases h

end Text

namespace Decimal

variable {c : Char}

/-- A digit of any script as a plain one. -/
theorem plainDigit_of_isDigit (h : Text.isDigit c = true) :
    isPlainDigit (plainDigit c) = true ∧ Text.digitValue (plainDigit c) = Text.digitValue c := by
  obtain ⟨z, -, hlow, hhigh, hvalue⟩ := Text.exists_zero h
  have hplain : ∀ n < 10, isPlainDigit (Char.ofNat (48 + n)) = true ∧
      Text.digitValue (Char.ofNat (48 + n)) = n := by decide +kernel
  obtain ⟨hdigit, hn⟩ := hplain (c.toNat - z) (by omega)
  have hc : plainDigit c = Char.ofNat (48 + (c.toNat - z)) := by rw [plainDigit, hvalue]
  have hsame : Text.digitValue c = c.toNat - z := by rw [Text.digitValue, hvalue]; rfl
  rw [hc, hsame]
  exact ⟨hdigit, hn⟩

theorem plainDigit_of_not_isDigit (h : Text.isDigit c = false) : plainDigit c = c := by
  rw [Text.isDigit, Option.isSome_eq_false_iff, Option.isNone_iff_eq_none] at h
  rw [plainDigit, h]

theorem digitsValue_map_plainDigit {ds : List Char} (h : IsDigits ds) :
    Text.digitsValue (ds.map plainDigit) = Text.digitsValue ds := by
  rw [Text.digitsValue, Text.digitsValue, List.foldl_map]
  refine List.foldl_ext _ _ 0 fun n c hc => ?_
  rw [(plainDigit_of_isDigit (h c hc)).2]

end Decimal

/-! ## Plain decimals -/

namespace Decimal

/-- A decimal as it is written: a sign or none, digits, and perhaps a point with digits behind it or
none. -/
structure Plain where
  sign : List Char
  whole : List Char
  fraction : Option (List Char)

/-- A point with digits behind it, where there is one. -/
def pointed : Option (List Char) → List Char
  | none => []
  | some ds => '.' :: ds

namespace Plain

structure IsWritten (p : Plain) : Prop where
  sign : p.sign = [] ∨ p.sign = ['+'] ∨ p.sign = ['-']
  someWhole : p.whole ≠ []
  whole : IsDigits p.whole
  fraction : ∀ ds, p.fraction = some ds → IsDigits ds

/-- The characters of a decimal. -/
def body (p : Plain) : List Char := p.sign ++ (p.whole ++ pointed p.fraction)

/-- A text is a decimal between two rows of characters. -/
def IsBetween (p : Plain) (before after cs : List Char) : Prop :=
  p.IsWritten ∧ (∀ c ∈ before, Text.isBlank c = true) ∧ (∀ c ∈ after, Text.isBlank c = true) ∧
    cs = before ++ p.body ++ after

/-- The double nearest to a decimal. -/
def value (p : Plain) : Float :=
  let behind := p.fraction.getD []
  let x := nearest (Text.digitsValue (p.whole ++ behind)) (-behind.length)
  if p.sign = ['-'] then -x else x

end Plain

end Decimal

/-! ## Taking apart -/

namespace Text

/-- A class of characters stops where another character stands. -/
theorem span_append {p : Char → Bool} {front rest : List Char}
    (hfront : ∀ c ∈ front, p c = true) (hrest : ∀ c, rest.head? = some c → p c = false) :
    (front ++ rest).takeWhile p = front ∧ (front ++ rest).dropWhile p = rest := by
  have hdrop : rest.dropWhile p = rest := dropWhile_eq_self_iff.mpr hrest
  have htake : rest.takeWhile p = [] := by
    have hsplit := List.takeWhile_append_dropWhile (p := p) (l := rest)
    rw [hdrop] at hsplit
    exact List.append_left_eq_self.mp hsplit
  rw [List.takeWhile_append_of_pos hfront, List.dropWhile_append_of_pos hfront, htake, hdrop,
    List.append_nil]
  exact ⟨rfl, rfl⟩

end Text

namespace Decimal

variable {sign rest cs : List Char}

theorem splitSign_append (hs : sign = [] ∨ sign = ['+'] ∨ sign = ['-'])
    (hrest : rest.head? ≠ some '+' ∧ rest.head? ≠ some '-') :
    splitSign (sign ++ rest) = (decide (sign = ['-']), rest) := by
  rcases hs with rfl | rfl | rfl
  · rw [List.nil_append, splitSign]
    · rfl
    · rintro _ rfl
      exact hrest.2 rfl
    · rintro _ rfl
      exact hrest.1 rfl
  · rfl
  · rfl

theorem exists_sign (cs : List Char) :
    ∃ sign, (sign = [] ∨ sign = ['+'] ∨ sign = ['-']) ∧ cs = sign ++ (splitSign cs).2 := by
  unfold splitSign
  split
  · exact ⟨['-'], .inr (.inr rfl), rfl⟩
  · exact ⟨['+'], .inr (.inl rfl), rfl⟩
  · exact ⟨[], .inl rfl, rfl⟩

namespace Plain

variable {p : Plain} (hw : p.IsWritten)

include hw

/-- After the sign of a decimal there is a digit. -/
theorem IsWritten.head?_whole (rest : List Char) :
    ∃ d, (p.whole ++ rest).head? = some d ∧ Text.isDigit d = true := by
  obtain ⟨d, whole, hwhole⟩ := List.exists_cons_of_ne_nil hw.someWhole
  refine ⟨d, by rw [hwhole]; rfl, hw.whole d ?_⟩
  rw [hwhole]
  exact List.mem_cons_self

theorem IsWritten.splitSign_body (rest : List Char) :
    splitSign (p.body ++ rest) =
      (decide (p.sign = ['-']), p.whole ++ (pointed p.fraction ++ rest)) := by
  obtain ⟨d, hhead, hd⟩ := hw.head?_whole (pointed p.fraction ++ rest)
  rw [Plain.body, List.append_assoc, List.append_assoc, splitSign_append hw.sign]
  rw [hhead]
  constructor <;> rintro ⟨⟩ <;> exact absurd hd (by decide)

/-- The characters of a decimal begin with none that is white space. -/
theorem IsWritten.head?_body (rest : List Char) (c : Char)
    (hc : (p.body ++ rest).head? = some c) : Text.isBlank c = false := by
  obtain ⟨d, hhead, hd⟩ := hw.head?_whole (pointed p.fraction ++ rest)
  rw [Plain.body, List.append_assoc, List.append_assoc] at hc
  rcases hw.sign with hsign | hsign | hsign <;> rw [hsign] at hc
  · rw [List.nil_append, hhead] at hc
    cases hc
    exact Text.isBlank_of_isDigit hd
  · cases hc
    decide
  · cases hc
    decide

end Plain

end Decimal

/-! ## White space around a numeral -/

namespace Text

variable {q : Char → Bool} {body : List Char}

theorem dropWhile_append_of_eq {cs : List Char} (h : cs.dropWhile q = cs) (front : List Char) :
    (front ++ cs).dropWhile q = front.dropWhile q ++ cs := by
  rw [List.dropWhile_append, h]
  split
  · next hempty => rw [List.isEmpty_iff.mp hempty, List.nil_append]
  · rfl

/-- What is taken away at the ends is taken from around the characters in between. -/
theorem trimBoth_around (hne : body ≠ []) (h : ∀ c ∈ body, q c = false) (before after : List Char) :
    trimBoth q (before ++ body ++ after) =
      before.dropWhile q ++ body ++ (after.reverse.dropWhile q).reverse := by
  have hstop {cs : List Char} (hcs : cs ≠ []) (hall : ∀ c ∈ cs, q c = false) (rest : List Char) :
      (cs ++ rest).dropWhile q = cs ++ rest := by
    obtain ⟨c, cs, rfl⟩ := List.exists_cons_of_ne_nil hcs
    exact List.dropWhile_cons_of_neg (by rw [hall c List.mem_cons_self]; exact Bool.false_ne_true)
  have hback := hstop (List.reverse_ne_nil_iff.mpr hne)
    (fun c hc => h c (List.mem_reverse.mp hc)) (before.dropWhile q).reverse
  rw [trimBoth, List.append_assoc, dropWhile_append_of_eq (hstop hne h after), List.reverse_append,
    List.reverse_append, List.append_assoc, dropWhile_append_of_eq hback, List.reverse_append,
    List.reverse_append, List.reverse_reverse, List.reverse_reverse]

theorem outside_of_isBlank {c : Char} (h : isBlank c = true) : c.toNat < 43 ∨ 122 < c.toNat := by
  have hranges : ∀ r ∈ blankRanges, r.2 < 43 ∨ 122 < r.1 := by decide
  obtain ⟨r, hr, hc⟩ := List.any_eq_true.mp h
  rw [Bool.and_eq_true, decide_eq_true_eq, decide_eq_true_eq] at hc
  have := hranges r hr
  omega

end Text

namespace Decimal

/-! ## Numerals -/

variable {c : Char} {cs : List Char}

theorem isDigit_of_isPlainDigit (h : isPlainDigit c = true) : Text.isDigit c = true := by
  rw [isPlainDigit, Bool.and_eq_true, decide_eq_true_eq, decide_eq_true_eq] at h
  have hlow : 48 ≤ c.toNat := h.1
  have hhigh : c.toNat ≤ 57 := h.2
  rw [Text.isDigit, Text.digitValue?, Option.isSome_map, List.find?_isSome]
  refine ⟨48, by decide, ?_⟩
  rw [Bool.and_eq_true, decide_eq_true_eq, decide_eq_true_eq]
  omega

theorem dropUnderscores_eq_some (h : '_' ∉ cs) (before : Char) :
    dropUnderscores before cs = some cs := by
  induction cs generalizing before with
  | nil => rfl
  | cons c cs ih =>
    rw [List.mem_cons, not_or] at h
    rw [dropUnderscores.eq_4, ih h.2]
    · rfl
    · rintro next rest rfl
      exact (h.1 rfl).elim
    · rintro rfl
      exact (h.1 rfl).elim

theorem toLower_eq_self (h : c.toNat < 65 ∨ 90 < c.toNat) : c.toLower = c := by
  refine dif_neg fun hupper => ?_
  have hlow : 65 ≤ c.toNat := hupper.1
  have hhigh : c.toNat ≤ 90 := hupper.2
  omega

/-- What begins like no word is no word. -/
theorem readMagnitude?_cons (h : c.toNat < 65 ∨ 122 < c.toNat) (cs : List Char) :
    readMagnitude? (c :: cs) = readDecimal? (c :: cs) := by
  have hlower : c.toLower = c := toLower_eq_self (by omega)
  have hword (w : Char) (ws : List Char) (hw : 65 ≤ w.toNat ∧ w.toNat ≤ 122) :
      (c :: cs.map Char.toLower == w :: ws) = false := by
    rw [beq_eq_false_iff_ne]
    rintro ⟨⟩
    omega
  rw [readMagnitude?, List.map_cons, hlower]
  change (if (c :: cs.map Char.toLower == 'i' :: ['n', 'f']) ||
    (c :: cs.map Char.toLower == 'i' :: ['n', 'f', 'i', 'n', 'i', 't', 'y']) then _ else
      if (c :: cs.map Char.toLower == 'n' :: ['a', 'n']) then _ else _) = _
  rw [hword 'i' _ (by decide), hword 'i' _ (by decide), hword 'n' _ (by decide)]
  rfl

/-- Plain digits behind a point that may be there, and what follows them. -/
def splitPoint : List Char → List Char × List Char
  | '.' :: rest => (rest.takeWhile isPlainDigit, rest.dropWhile isPlainDigit)
  | rest => ([], rest)

section Digits

variable {whole after : List Char} {fraction : Option (List Char)}
  (hfraction : ∀ ds, fraction = some ds → ∀ c ∈ ds, isPlainDigit c = true)
  (hafter : ∀ c, after.head? = some c → isPlainDigit c = false ∧ c ≠ '.')

include hfraction hafter

theorem splitPoint_append : splitPoint (pointed fraction ++ after) = (fraction.getD [], after) := by
  cases fraction with
  | none =>
    rw [pointed, List.nil_append, splitPoint]
    · rfl
    · rintro rest rfl
      exact (hafter '.' rfl).2 rfl
  | some ds =>
    obtain ⟨htake, hdrop⟩ := Text.span_append (hfraction ds rfl) fun c hc => (hafter c hc).1
    rw [pointed, List.cons_append, splitPoint, htake, hdrop]
    rfl

/-- Plain digits with a point and further digits, and what follows them as a power of ten. -/
theorem readDecimal?_append (hne : whole ≠ []) (hwhole : ∀ c ∈ whole, isPlainDigit c = true) :
    readDecimal? (whole ++ (pointed fraction ++ after)) = (readExponent? after).map fun e =>
      .decimal (Text.digitsValue (whole ++ fraction.getD [])) (e - (fraction.getD []).length) := by
  have hstop : ∀ c, (pointed fraction ++ after).head? = some c → isPlainDigit c = false := by
    intro c hc
    cases fraction with
    | none => exact (hafter c hc).1
    | some ds =>
      cases hc
      decide
  obtain ⟨htake, hdrop⟩ := Text.span_append hwhole hstop
  have heq (cs : List Char) : readDecimal? cs =
      if (cs.takeWhile isPlainDigit).isEmpty &&
        (splitPoint (cs.dropWhile isPlainDigit)).1.isEmpty then none
      else
        (readExponent? (splitPoint (cs.dropWhile isPlainDigit)).2).map fun e =>
          .decimal
            (Text.digitsValue
              (cs.takeWhile isPlainDigit ++ (splitPoint (cs.dropWhile isPlainDigit)).1))
            (e - (splitPoint (cs.dropWhile isPlainDigit)).1.length) := rfl
  rw [heq, htake, hdrop, splitPoint_append hfraction hafter, List.isEmpty_eq_false_iff.mpr hne]
  rfl

end Digits

/-! ## A decimal as a numeral -/

/-- What begins like no digit and no point is no decimal. -/
theorem readDecimal?_eq_none (h : isPlainDigit c = false) (hpoint : c ≠ '.') (cs : List Char) :
    readDecimal? (c :: cs) = none := by
  have hstop : ¬isPlainDigit c = true := by rw [h]; exact Bool.false_ne_true
  rw [readDecimal?, List.takeWhile_cons_of_neg hstop, List.dropWhile_cons_of_neg hstop]
  split
  next fraction rest heq =>
    split at heq
    · next hcons =>
      cases hcons
      exact absurd rfl hpoint
    · cases heq
      rfl

theorem isPlainDigit_of_isBlank (h : Text.isBlank c = true) : isPlainDigit c = false := by
  rw [Bool.eq_false_iff]
  intro hplain
  have hdigit := isDigit_of_isPlainDigit hplain
  rw [Text.isDigit_of_isBlank h] at hdigit
  cases hdigit

/-- White space is no power of ten. -/
theorem readExponent?_of_isBlank (h : ∀ c ∈ cs, Text.isBlank c = true) :
    readExponent? cs = if cs = [] then some 0 else none := by
  cases cs with
  | nil => rfl
  | cons c cs =>
    have hout := Text.outside_of_isBlank (h c List.mem_cons_self)
    have he : (c == 'e' || c == 'E') = false := by
      rw [Bool.or_eq_false_iff, beq_eq_false_iff_ne, beq_eq_false_iff_ne]
      constructor <;> rintro rfl <;> exact absurd hout (by decide)
    rw [readExponent?, he, if_neg Bool.false_ne_true, if_neg (List.cons_ne_nil c cs)]

namespace Plain

/-- A decimal in plain digits. -/
def plain (p : Plain) : Plain :=
  ⟨p.sign, p.whole.map plainDigit, p.fraction.map (·.map plainDigit)⟩

theorem plain_behind (p : Plain) :
    p.plain.fraction.getD [] = (p.fraction.getD []).map plainDigit := by
  rw [plain]
  cases p.fraction <;> rfl

variable {p : Plain} (hw : p.IsWritten)

include hw

theorem isPlainDigit_whole : ∀ c ∈ p.plain.whole, isPlainDigit c = true := by
  intro c hc
  obtain ⟨d, hd, rfl⟩ := List.mem_map.mp hc
  exact (plainDigit_of_isDigit (hw.whole d hd)).1

theorem isPlainDigit_fraction :
    ∀ ds, p.plain.fraction = some ds → ∀ c ∈ ds, isPlainDigit c = true := by
  intro ds hds c hc
  obtain ⟨ds, hfraction, rfl⟩ := Option.map_eq_some_iff.mp hds
  obtain ⟨d, hd, rfl⟩ := List.mem_map.mp hc
  exact (plainDigit_of_isDigit (hw.fraction ds hfraction d hd)).1

theorem isWritten_plain : p.plain.IsWritten where
  sign := hw.sign
  someWhole := fun h => hw.someWhole (List.map_eq_nil_iff.mp h)
  whole := fun c hc => isDigit_of_isPlainDigit (isPlainDigit_whole hw c hc)
  fraction := fun ds hds c hc => isDigit_of_isPlainDigit (isPlainDigit_fraction hw ds hds c hc)

theorem map_body : p.body.map plainDigit = p.plain.body := by
  have hsign : p.sign.map plainDigit = p.sign := by
    rcases hw.sign with h | h | h <;> rw [h] <;> decide
  have hpoint : (pointed p.fraction).map plainDigit = pointed (p.fraction.map (·.map plainDigit)) := by
    cases p.fraction with
    | none => rfl
    | some ds =>
      have hdot : plainDigit '.' = '.' := by decide
      rw [pointed, List.map_cons, hdot]
      rfl
  rw [body, List.map_append, List.map_append, hsign, hpoint]
  rfl

theorem digitsValue_plain : Text.digitsValue (p.plain.whole ++ p.plain.fraction.getD []) =
    Text.digitsValue (p.whole ++ p.fraction.getD []) := by
  have hdigits : IsDigits (p.whole ++ p.fraction.getD []) := by
    intro c hc
    rcases List.mem_append.mp hc with hc | hc
    · exact hw.whole c hc
    · cases hfraction : p.fraction with
      | none =>
        rw [hfraction] at hc
        cases hc
      | some ds =>
        rw [hfraction] at hc
        exact hw.fraction ds hfraction c hc
  rw [plain_behind, plain, ← List.map_append, digitsValue_map_plainDigit hdigits]

/-- A decimal in plain digits is a number, but not with white space behind it. -/
theorem readMagnitude?_plain {after : List Char} (hafter : ∀ c ∈ after, Text.isBlank c = true) :
    readMagnitude? (p.plain.whole ++ (pointed p.plain.fraction ++ after)) =
      if after = [] then
        some (.decimal (Text.digitsValue (p.whole ++ p.fraction.getD []))
          (-(p.fraction.getD []).length))
      else none := by
  obtain ⟨w, ws, hcons⟩ := List.exists_cons_of_ne_nil (isWritten_plain hw).someWhole
  have hw₀ : isPlainDigit w = true :=
    isPlainDigit_whole hw w (by rw [hcons]; exact List.mem_cons_self)
  have hstop : ∀ c, after.head? = some c → isPlainDigit c = false ∧ c ≠ '.' := by
    intro c hc
    have hblank := hafter c (List.mem_of_mem_head? hc)
    refine ⟨isPlainDigit_of_isBlank hblank, ?_⟩
    rintro rfl
    exact absurd hblank (by decide)
  have hnumber : readMagnitude? (p.plain.whole ++ (pointed p.plain.fraction ++ after)) =
      readDecimal? (p.plain.whole ++ (pointed p.plain.fraction ++ after)) := by
    rw [isPlainDigit, Bool.and_eq_true, decide_eq_true_eq, decide_eq_true_eq] at hw₀
    have hhigh : w.toNat ≤ 57 := hw₀.2
    rw [hcons]
    exact readMagnitude?_cons (by omega) _
  have hlength : (p.plain.fraction.getD []).length = (p.fraction.getD []).length := by
    rw [plain_behind, List.length_map]
  rw [hnumber, readDecimal?_append (isPlainDigit_fraction hw) hstop (isWritten_plain hw).someWhole
    (isPlainDigit_whole hw), digitsValue_plain hw, hlength, readExponent?_of_isBlank hafter]
  split_ifs
  · rw [Option.map_some, Int.zero_sub]
  · rfl

end Plain

/-- A numeral with its sign. -/
def readSigned? (cs : List Char) : Option Numeral :=
  (readMagnitude? (splitSign cs).2).map (⟨(splitSign cs).1, ·⟩)

/-- White space in front is read as no numeral. -/
theorem readSigned?_eq_none (h : Text.isBlank c = true) (cs : List Char) :
    readSigned? (c :: cs) = none := by
  have hne {d : Char} (hd : Text.isBlank d = false) : c ≠ d := by
    rintro rfl
    rw [hd] at h
    cases h
  have hsign : splitSign (c :: cs) = (false, c :: cs) := by
    rw [splitSign]
    · rintro _ ⟨⟩
      exact hne (by decide) rfl
    · rintro _ ⟨⟩
      exact hne (by decide) rfl
  have hout := Text.outside_of_isBlank h
  rw [readSigned?, hsign, readMagnitude?_cons (by omega),
    readDecimal?_eq_none (isPlainDigit_of_isBlank h) (hne (by decide))]
  rfl

namespace Plain

variable {p : Plain} {before after : List Char} {s : String}

/-- What holds of signs, of the point and of the digits of a decimal holds of its characters. -/
theorem forall_mem_body {q : Char → Prop} (hw : p.IsWritten) (hplus : q '+') (hminus : q '-')
    (hpoint : q '.') (hwhole : ∀ c ∈ p.whole, q c)
    (hfraction : ∀ ds, p.fraction = some ds → ∀ c ∈ ds, q c) : ∀ c ∈ p.body, q c := by
  have hsign : ∀ c ∈ p.sign, q c := by
    rcases hw.sign with h | h | h <;> rw [h]
    · exact nofun
    · exact List.forall_mem_singleton.mpr hplus
    · exact List.forall_mem_singleton.mpr hminus
  have hpointed : ∀ c ∈ pointed p.fraction, q c := by
    cases hds : p.fraction with
    | none => exact nofun
    | some ds => exact List.forall_mem_cons.mpr ⟨hpoint, hfraction ds hds⟩
  exact List.forall_mem_append.mpr ⟨hsign, List.forall_mem_append.mpr ⟨hwhole, hpointed⟩⟩

theorem readSigned?_body (hw : p.IsWritten) (hafter : ∀ c ∈ after, Text.isBlank c = true) :
    readSigned? (p.plain.body ++ after) =
      if after = [] then
        some ⟨decide (p.sign = ['-']), .decimal (Text.digitsValue (p.whole ++ p.fraction.getD []))
          (-(p.fraction.getD []).length)⟩
      else none := by
  rw [readSigned?, (isWritten_plain hw).splitSign_body after, readMagnitude?_plain hw hafter,
    apply_ite (Option.map _)]
  rfl

theorem body_ne_nil (hw : p.IsWritten) : p.body ≠ [] := fun hnil =>
  hw.someWhole (List.append_eq_nil_iff.mp (List.append_eq_nil_iff.mp hnil).2).1

theorem isNumeralBlank_body (hw : p.IsWritten) : ∀ c ∈ p.body, Text.isNumeralBlank c = false := by
  have hdigits {ds : List Char} (hds : IsDigits ds) : ∀ c ∈ ds, Text.isNumeralBlank c = false := by
    intro c hc
    rw [Text.isNumeralBlank, Text.isBlank_of_isDigit (hds c hc), Bool.false_and]
  exact forall_mem_body hw (by decide) (by decide) (by decide) (hdigits hw.whole)
    fun ds hds => hdigits (hw.fraction ds hds)

theorem underscore_not_mem (hw : p.IsWritten) (hbefore : ∀ c ∈ before, Text.isBlank c = true)
    (hafter : ∀ c ∈ after, Text.isBlank c = true) : '_' ∉ before ++ (p.plain.body ++ after) := by
  have hdigits {ds : List Char} (hds : ∀ c ∈ ds, isPlainDigit c = true) : ∀ c ∈ ds, c ≠ '_' := by
    rintro _ hc rfl
    exact absurd (hds _ hc) (by decide)
  have hbody : ∀ c ∈ p.plain.body, c ≠ '_' :=
    forall_mem_body (isWritten_plain hw) (by decide) (by decide) (by decide)
      (hdigits (isPlainDigit_whole hw)) fun ds hds => hdigits (isPlainDigit_fraction hw ds hds)
  rw [List.mem_append, List.mem_append]
  rintro (hmem | hmem | hmem)
  · exact absurd (hbefore _ hmem) (by decide)
  · exact hbody _ hmem rfl
  · exact absurd (hafter _ hmem) (by decide)

/-- What is read of a decimal between white space is itself in plain digits, between what may not
surround a numeral. -/
theorem IsBetween.readNumeral?_eq (h : p.IsBetween before after s.toList) :
    readNumeral? s = readSigned? (before.dropWhile Text.isNumeralBlank ++ (p.plain.body ++
      (after.reverse.dropWhile Text.isNumeralBlank).reverse)) := by
  obtain ⟨hw, hbefore, hafter, hs⟩ := h
  have hleft : ∀ c ∈ before.dropWhile Text.isNumeralBlank, Text.isBlank c = true := fun c hc =>
    hbefore c (List.dropWhile_subset _ hc)
  have hright : ∀ c ∈ (after.reverse.dropWhile Text.isNumeralBlank).reverse,
      Text.isBlank c = true := fun c hc =>
    hafter c (List.mem_reverse.mp (List.dropWhile_subset _ (List.mem_reverse.mp hc)))
  -- what is left of the white space is not changed with the digits
  have hmap {cs : List Char} (hcs : ∀ c ∈ cs, Text.isBlank c = true) : cs.map plainDigit = cs := by
    refine (List.map_congr_left fun c hc => ?_).trans (List.map_id cs)
    exact plainDigit_of_not_isDigit (Text.isDigit_of_isBlank (hcs c hc))
  rw [readNumeral?, hs, Text.trimBoth_around (body_ne_nil hw) (isNumeralBlank_body hw),
    List.map_append, List.map_append, map_body hw, hmap hleft, hmap hright, List.append_assoc,
    dropUnderscores_eq_some (underscore_not_mem hw hleft hright)]
  rfl

/-- **A decimal between white space that may surround a numeral is read as the nearest double.** -/
theorem IsBetween.read?_eq_some (h : p.IsBetween before after s.toList)
    (hbefore : ∀ c ∈ before, Text.isNumeralBlank c = true)
    (hafter : ∀ c ∈ after, Text.isNumeralBlank c = true) : read? s = some p.value := by
  have hb : before.dropWhile Text.isNumeralBlank = [] := List.dropWhile_eq_nil_iff.mpr hbefore
  have ha : after.reverse.dropWhile Text.isNumeralBlank = [] :=
    List.dropWhile_eq_nil_iff.mpr fun c hc => hafter c (List.mem_reverse.mp hc)
  have hnone : ∀ c ∈ ([] : List Char), Text.isBlank c = true := nofun
  rw [read?, h.readNumeral?_eq, hb, ha, List.nil_append, List.reverse_nil,
    readSigned?_body h.1 hnone, if_pos rfl, Option.map_some, Numeral.toFloat]
  simp only [decide_eq_true_eq]
  rfl

/-- **A decimal between white space of which some may not surround a numeral is not read.** -/
theorem IsBetween.read?_eq_none (h : p.IsBetween before after s.toList) {c : Char}
    (hc : c ∈ before ++ after) (hnot : Text.isNumeralBlank c = false) : read? s = none := by
  have hstays : ¬∀ c ∈ before ++ after, Text.isNumeralBlank c = true := fun hall => by
    rw [hall c hc] at hnot
    cases hnot
  rw [read?, Option.map_eq_none_iff, h.readNumeral?_eq]
  cases hb : before.dropWhile Text.isNumeralBlank with
  | cons b bs =>
    have hmem : b ∈ before :=
      List.dropWhile_subset Text.isNumeralBlank (by rw [hb]; exact List.mem_cons_self)
    exact readSigned?_eq_none (h.2.1 b hmem) _
  | nil =>
    have ha : (after.reverse.dropWhile Text.isNumeralBlank).reverse ≠ [] := by
      rw [List.reverse_ne_nil_iff, ne_eq, List.dropWhile_eq_nil_iff]
      refine fun hall => hstays (List.forall_mem_append.mpr ⟨?_, fun c hc => ?_⟩)
      · exact List.dropWhile_eq_nil_iff.mp hb
      · exact hall c (List.mem_reverse.mpr hc)
    rw [List.nil_append, readSigned?_body h.1 fun c hc => h.2.2.1 c (List.mem_reverse.mp
      (List.dropWhile_subset _ (List.mem_reverse.mp hc))), if_neg ha]

end Plain

end Decimal

end MetesBounds
