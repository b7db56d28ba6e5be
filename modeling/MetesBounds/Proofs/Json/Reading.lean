import Mathlib
import MetesBounds.Json
import MetesBounds.Proofs.Decimal.Characters

/-!
# `Json/Reading` — a document can be read off its line

Documents that are written on one line in the same way are the same document. What is written for a
part of a document shows where that part ends: a text at its closing quotation mark, which stands
nowhere inside of it, an array or object at its closing bracket, and a number where something
follows that may not stand in one. So the parts can be told from each other one after the other,
whatever stands in the texts among them.

Main statements: `Json.compact_injective` and `Json.IsPlain.isAscii`.
-/

set_option autoImplicit false

namespace MetesBounds

/-! ## Numbers in hexadecimal -/

namespace Text.Quoted

variable {k m n : Nat}

theorem hex_succ (hk : 0 < k) (n : Nat) :
    hex (k + 1) n = hex k (n / 16) ++ [(n % 16).digitChar] := by
  rcases Nat.lt_or_ge n 16 with h | h
  · have hzero : n / 16 = 0 := Nat.div_eq_of_lt h
    have hdigits : Nat.toDigits 16 0 = ['0'] := rfl
    obtain ⟨k, rfl⟩ := Nat.exists_eq_succ_of_ne_zero hk.ne'
    simp only [hex]
    rw [hzero, Nat.mod_eq_of_lt h, Nat.toDigits_of_lt_base h, hdigits, ← List.replicate_succ']
    rfl
  · simp only [hex]
    rw [Nat.toDigits_of_base_le (by decide) h, List.length_append, List.length_singleton,
      Nat.add_sub_add_right, List.append_assoc]

theorem hex_one (hn : n < 16) : hex 1 n = [n.digitChar] := by
  simp only [hex]
  rw [Nat.toDigits_of_lt_base hn]
  rfl

theorem length_hex (hk : 0 < k) (hn : n < 16 ^ k) : (hex k n).length = k := by
  have hlen := (Nat.length_toDigits_le_iff (by decide) hk).mpr hn
  rw [hex, List.length_append, List.length_replicate, Nat.sub_add_cancel hlen]

theorem digitChar_inj (hm : m < 16) (hn : n < 16) (h : m.digitChar = n.digitChar) : m = n := by
  have hall : ∀ a < 16, ∀ b < 16, Nat.digitChar a = Nat.digitChar b → a = b := by decide
  exact hall m hm n hn h

/-- Numbers are the same that have the same digits. -/
theorem hex_inj (hk : 0 < k) (hm : m < 16 ^ k) (hn : n < 16 ^ k) (h : hex k m = hex k n) :
    m = n := by
  induction k, hk using Nat.le_induction generalizing m n with
  | base =>
    have hm : m < 16 := hm
    have hn : n < 16 := hn
    have h : hex 1 m = hex 1 n := h
    rw [hex_one hm, hex_one hn] at h
    exact digitChar_inj hm hn (List.singleton_inj.mp h)
  | succ k hk ih =>
    rw [hex_succ hk, hex_succ hk] at h
    obtain ⟨hfront, hlast⟩ := List.append_inj' h rfl
    have hlast := digitChar_inj (Nat.mod_lt _ (by decide)) (Nat.mod_lt _ (by decide))
      (List.singleton_inj.mp hlast)
    have hfront := ih (by omega) (by omega) hfront
    omega

end Text.Quoted

namespace Json

/-! ## Escapes -/

section Escapes

variable {m n : Nat} {cs ds r r' : List Char}

/-- The characters that have an escape of one letter, and the letters. -/
def shortEscapes : List (Char × Char) :=
  [('\x22', '\x22'), ('\x5c', '\x5c'), ('\n', 'n'), ('\r', 'r'), ('\t', 't'), ('\x08', 'b'),
    ('\x0c', 'f')]

/-- The ways in which a character is written in units of sixteen bits, by its code: one unit, or
two halves. -/
inductive IsUnits : Nat → List Char → Prop
  | one {n : Nat} (hn : n < 0x10000) (hwhole : ¬Text.isSurrogate n = true) :
    IsUnits n (escapeUnit n)
  | pair {n : Nat} (hn : 0x10000 ≤ n) (hn' : n < 0x110000) :
    IsUnits n (escapeUnit (0xD800 + (n - 0x10000) / 0x400) ++
      escapeUnit (0xDC00 + (n - 0x10000) % 0x400))

/-- The ways in which a character is written, by its code. -/
inductive IsEscaped : Nat → List Char → Prop
  | plain {c : Char} (hquote : c ≠ '\x22') (hslash : c ≠ '\x5c') (hascii : c.toNat < 0x7F) :
    IsEscaped c.toNat [c]
  | short {c x : Char} (h : (c, x) ∈ shortEscapes) : IsEscaped c.toNat ['\x5c', x]
  | units {n : Nat} {cs : List Char} (h : IsUnits n cs) : IsEscaped n cs

theorem isEscaped_escape (c : Char) : IsEscaped c.toNat (escape c) := by
  have hc := Text.toNat_bounds c
  have hshort {x : Char} (h : (c, x) ∈ shortEscapes) : IsEscaped c.toNat ['\x5c', x] := .short h
  unfold escape
  simp only [Bool.or_eq_true, beq_iff_eq]
  split_ifs with hslash hn hr ht hb hf hplain hsmall
  · rcases hslash with rfl | rfl <;> exact hshort (by decide)
  · obtain rfl := hn
    exact hshort (by decide)
  · obtain rfl := hr
    exact hshort (by decide)
  · obtain rfl := ht
    exact hshort (by decide)
  · obtain rfl := hb
    exact hshort (by decide)
  · obtain rfl := hf
    exact hshort (by decide)
  · rw [not_or] at hslash
    rw [Bool.and_eq_true, decide_eq_true_eq, decide_eq_true_eq] at hplain
    exact .plain hslash.1 hslash.2 hplain.2
  · exact .units (.one hsmall hc.2)
  · exact .units (.pair (not_lt.mp hsmall) hc.1)

theorem isEscaped_escapeCode (hn : n.isValidChar) : IsEscaped n (escapeCode n) := by
  have hwhole : ¬Text.isSurrogate n = true := by
    rw [Text.isSurrogate_iff]
    unfold Nat.isValidChar at hn
    omega
  have hcode := isEscaped_escape (Char.ofNat n)
  rw [Text.toNat_ofNat hn] at hcode
  rwa [escapeCode, if_neg hwhole]

/-- An escape of a unit shows the unit and where the escape ends. -/
theorem escapeUnit_inj (hm : m < 0x10000) (hn : n < 0x10000)
    (h : escapeUnit m ++ r = escapeUnit n ++ r') : m = n ∧ r = r' := by
  have h := (List.cons.inj (List.cons.inj h).2).2
  have hlength : (Text.Quoted.hex 4 m).length = (Text.Quoted.hex 4 n).length := by
    rw [Text.Quoted.length_hex (by decide) hm, Text.Quoted.length_hex (by decide) hn]
  obtain ⟨hhex, hrest⟩ := List.append_inj h hlength
  exact ⟨Text.Quoted.hex_inj (by decide) hm hn hhex, hrest⟩

theorem shortEscapes_inj {c d x : Char} (hc : (c, x) ∈ shortEscapes) (hd : (d, x) ∈ shortEscapes) :
    c = d := by
  have hletters : (shortEscapes.map Prod.snd).Nodup := by simp [shortEscapes]
  exact congrArg Prod.fst (List.inj_on_of_nodup_map hletters hc hd rfl)

theorem shortEscapes_ne {c x : Char} (h : (c, x) ∈ shortEscapes) : x ≠ 'u' := by
  have hall : ∀ a ∈ shortEscapes, a.2 ≠ 'u' := by decide
  exact hall _ h

/-- Units show the character and where they end. A unit that is no half stands for itself. -/
theorem IsUnits.inj (hm : IsUnits m cs) (hn : IsUnits n ds) (h : cs ++ r = ds ++ r') :
    m = n ∧ r = r' := by
  cases hm with
  | one hm hwhole =>
    cases hn with
    | one hn => exact escapeUnit_inj hm hn h
    | pair hn hn' =>
      rw [List.append_assoc] at h
      have hunit := (escapeUnit_inj hm (by omega) h).1
      rw [Text.isSurrogate_iff] at hwhole
      omega
  | pair hm hm' =>
    rw [List.append_assoc] at h
    cases hn with
    | one hn hwhole =>
      have hunit := (escapeUnit_inj (by omega) hn h).1
      rw [Text.isSurrogate_iff] at hwhole
      omega
    | pair hn hn' =>
      rw [List.append_assoc] at h
      obtain ⟨hhigh, h⟩ := escapeUnit_inj (by omega) (by omega) h
      obtain ⟨hlow, hrest⟩ := escapeUnit_inj (by omega) (by omega) h
      exact ⟨by omega, hrest⟩

theorem escapeUnit_append (n : Nat) (r : List Char) :
    escapeUnit n ++ r = '\x5c' :: 'u' :: (Text.Quoted.hex 4 n ++ r) := rfl

theorem IsUnits.exists_cons (h : IsUnits n cs) : ∃ rest, cs = '\x5c' :: 'u' :: rest := by
  cases h with
  | one => exact ⟨_, rfl⟩
  | pair => exact ⟨_, escapeUnit_append _ _⟩

/-- What is written for a character shows the character and where it ends. -/
theorem IsEscaped.inj (hm : IsEscaped m cs) (hn : IsEscaped n ds) (h : cs ++ r = ds ++ r') :
    m = n ∧ r = r' := by
  -- the first character tells what is plain, and the second what has a letter of its own
  cases hm with
  | plain hquote hslash =>
    cases hn with
    | plain =>
      obtain ⟨rfl, rfl⟩ := List.cons.inj h
      exact ⟨rfl, rfl⟩
    | short => exact absurd (List.cons.inj h).1 hslash
    | units hn =>
      obtain ⟨rest, rfl⟩ := hn.exists_cons
      exact absurd (List.cons.inj h).1 hslash
  | short hx =>
    cases hn with
    | plain hquote hslash => exact absurd (List.cons.inj h).1.symm hslash
    | short hy =>
      obtain ⟨rfl, rfl⟩ := List.cons.inj (List.cons.inj h).2
      exact ⟨congrArg Char.toNat (shortEscapes_inj hx hy), rfl⟩
    | units hn =>
      obtain ⟨rest, rfl⟩ := hn.exists_cons
      exact absurd (List.cons.inj (List.cons.inj h).2).1 (shortEscapes_ne hx)
  | units hm =>
    cases hn with
    | plain hquote hslash =>
      obtain ⟨rest, rfl⟩ := hm.exists_cons
      exact absurd (List.cons.inj h).1.symm hslash
    | short hy =>
      obtain ⟨rest, rfl⟩ := hm.exists_cons
      exact absurd (List.cons.inj (List.cons.inj h).2).1.symm (shortEscapes_ne hy)
    | units hn => exact hm.inj hn h

/-- What is written for a character does not begin with a quotation mark. -/
theorem IsEscaped.exists_cons (h : IsEscaped n cs) : ∃ c rest, cs = c :: rest ∧ c ≠ '\x22' := by
  cases h with
  | plain hquote => exact ⟨_, _, rfl, hquote⟩
  | short => exact ⟨_, _, rfl, by decide⟩
  | units h =>
    obtain ⟨rest, rfl⟩ := h.exists_cons
    exact ⟨_, _, rfl, by decide⟩

end Escapes

/-! ## Texts -/

/-- The codes of a text are those of characters, and none of half of one. -/
def IsScalar (cs : List Char) : Prop := ∀ n ∈ Text.codesOf cs, n.isValidChar

instance (cs : List Char) : Decidable (IsScalar cs) :=
  inferInstanceAs (Decidable (∀ n ∈ Text.codesOf cs, n.isValidChar))

section Texts

variable {cs ds r r' : List Char}

/-- Written codes show where they end, before a quotation mark. -/
theorem codes_inj {ms ns : List Nat} (hms : ∀ n ∈ ms, n.isValidChar) (hns : ∀ n ∈ ns, n.isValidChar)
    (h : ms.flatMap escapeCode ++ '\x22' :: r = ns.flatMap escapeCode ++ '\x22' :: r') :
    ms = ns ∧ r = r' := by
  induction ms generalizing ns with
  | nil =>
    cases ns with
    | nil => exact ⟨rfl, (List.cons.inj h).2⟩
    | cons n ns =>
      obtain ⟨c, rest, hcode, hc⟩ := (isEscaped_escapeCode (hns n List.mem_cons_self)).exists_cons
      rw [List.flatMap_cons, hcode] at h
      exact absurd (List.cons.inj h).1.symm hc
  | cons m ms ih =>
    obtain ⟨hm, hms⟩ := List.forall_mem_cons.mp hms
    cases ns with
    | nil =>
      obtain ⟨c, rest, hcode, hc⟩ := (isEscaped_escapeCode hm).exists_cons
      rw [List.flatMap_cons, hcode] at h
      exact absurd (List.cons.inj h).1 hc
    | cons n ns =>
      obtain ⟨hn, hns⟩ := List.forall_mem_cons.mp hns
      rw [List.flatMap_cons, List.flatMap_cons, List.append_assoc, List.append_assoc] at h
      obtain ⟨hcode, hrest⟩ := (isEscaped_escapeCode hm).inj (isEscaped_escapeCode hn) h
      obtain ⟨hcodes, hrest⟩ := ih hms hns hrest
      exact ⟨congrArg₂ List.cons hcode hcodes, hrest⟩

/-- A written text shows what it is and where it ends. -/
theorem writeText_inj (hcs : IsScalar cs) (hds : IsScalar ds)
    (h : writeText cs ++ r = writeText ds ++ r') : cs = ds ∧ r = r' := by
  simp only [writeText, List.append_assoc, List.cons_append, List.nil_append, List.cons.injEq,
    true_and] at h
  obtain ⟨hcodes, hrest⟩ := codes_inj hcs hds h
  exact ⟨Text.codesOf_injective hcodes, hrest⟩

end Texts

/-! ## Numbers -/

/-- What follows a part of a document does not begin like a number. -/
def Ends (cs : List Char) : Prop := ∀ c ∈ cs.head?, isNumeral c = false

/-- A number is written, and begins with no letter that the names of other documents begin with. -/
structure IsNumberText (cs : List Char) : Prop where
  written : IsWritten cs
  head : ∀ c ∈ cs.head?, c ∉ ['n', 't', 'f']

section Numbers

variable {cs ds r r' : List Char}

theorem ends_cons {c : Char} (h : isNumeral c = false) (cs : List Char) : Ends (c :: cs) :=
  fun _ hc => Option.some_inj.mp hc ▸ h

theorem takeWhile_isNumeral (h : IsWritten cs) (hr : Ends r) :
    (cs ++ r).takeWhile isNumeral = cs := by
  rw [List.takeWhile_append_of_pos h.chars]
  cases r with
  | nil => exact List.append_nil cs
  | cons c r =>
    rw [List.takeWhile_cons_of_neg (by rw [hr c rfl]; exact Bool.false_ne_true), List.append_nil]

/-- A number shows what it is, and where it ends if no number follows. -/
theorem number_inj (hcs : IsWritten cs) (hds : IsWritten ds) (hr : Ends r) (hr' : Ends r')
    (h : cs ++ r = ds ++ r') : cs = ds ∧ r = r' := by
  have heq : cs = ds := by
    rw [← takeWhile_isNumeral hcs hr, h, takeWhile_isNumeral hds hr']
  exact ⟨heq, List.append_cancel_left (heq ▸ h)⟩

end Numbers

/-! ## Pieces -/

section Pieces

variable {α : Type} {write : α → List Char} {closing : Char} {xs ys : List α} {r r' : List Char}

/-- What is written for `x` shows that it is `x` and where it ends. -/
def Shows (write : α → List Char) (among : α → Prop) (x : α) : Prop :=
  ∀ y r r', among y → Ends r → Ends r' → write x ++ r = write y ++ r' → x = y ∧ r = r'

/-- What stands between a piece and what follows all pieces. -/
def afterPiece (write : α → List Char) (closing : Char) (r : List Char) : List α → List Char
  | [] => closing :: r
  | x :: xs => ',' :: ' ' :: (joined [',', ' '] ((x :: xs).map write) ++ closing :: r)

theorem joined_cons (write : α → List Char) (closing : Char) (r : List Char) (x : α) (xs : List α) :
    joined [',', ' '] ((x :: xs).map write) ++ closing :: r =
      write x ++ afterPiece write closing r xs := by
  cases xs with
  | nil => rfl
  | cons y ys =>
    rw [List.map_cons, List.map_cons, joined, afterPiece, List.append_assoc, List.append_assoc]
    · rfl
    · exact List.cons_ne_nil _ _

theorem ends_afterPiece (hclosing : isNumeral closing = false) (r : List Char) (xs : List α) :
    Ends (afterPiece write closing r xs) := by
  cases xs with
  | nil => exact ends_cons hclosing r
  | cons x xs => exact ends_cons (by decide) _

/-- Pieces show what they are one after the other, and where they end before the closing bracket. -/
theorem joined_inj {among : α → Prop} (hclosing : isNumeral closing = false) (hcomma : closing ≠ ',')
    (hhead : ∀ x, among x → ∃ c rest, write x = c :: rest ∧ c ≠ closing)
    (hxs : ∀ x ∈ xs, among x) (hshows : ∀ x ∈ xs, Shows write among x) (hys : ∀ y ∈ ys, among y)
    (h : joined [',', ' '] (xs.map write) ++ closing :: r =
      joined [',', ' '] (ys.map write) ++ closing :: r') : xs = ys ∧ r = r' := by
  induction xs generalizing ys with
  | nil =>
    cases ys with
    | nil => exact ⟨rfl, (List.cons.inj h).2⟩
    | cons y ys =>
      obtain ⟨c, rest, hwrite, hc⟩ := hhead y (hys y List.mem_cons_self)
      rw [joined_cons, hwrite] at h
      exact absurd (List.cons.inj h).1.symm hc
  | cons x xs ih =>
    obtain ⟨hx, hxs⟩ := List.forall_mem_cons.mp hxs
    obtain ⟨hshow, hshows⟩ := List.forall_mem_cons.mp hshows
    cases ys with
    | nil =>
      obtain ⟨c, rest, hwrite, hc⟩ := hhead x hx
      rw [joined_cons, hwrite] at h
      exact absurd (List.cons.inj h).1 hc
    | cons y ys =>
      obtain ⟨hy, hys⟩ := List.forall_mem_cons.mp hys
      rw [joined_cons, joined_cons] at h
      obtain ⟨hpiece, hrest⟩ := hshow y _ _ hy (ends_afterPiece hclosing r xs)
        (ends_afterPiece hclosing r' ys) h
      -- either both rows of pieces go on or both are closed
      have hrows : xs = ys ∧ r = r' := by
        refine ih hxs hshows hys ?_
        cases xs <;> cases ys
        · exact hrest
        · exact absurd (List.cons.inj hrest).1 hcomma
        · exact absurd (List.cons.inj hrest).1.symm hcomma
        · exact (List.cons.inj (List.cons.inj hrest).2).2
      exact ⟨congrArg₂ List.cons hpiece hrows.1, hrows.2⟩

end Pieces

/-! ## Documents -/

/-- A document whose texts and names are texts of characters, and whose numbers are written as
such. -/
inductive IsPlain : Json → Prop
  | null : IsPlain null
  | truth (b : Bool) : IsPlain (truth b)
  | number {written : List Char} (h : IsNumberText written) : IsPlain (number written)
  | text {cs : List Char} (h : IsScalar cs) : IsPlain (text cs)
  | array {items : List Json} (h : ∀ j ∈ items, IsPlain j) : IsPlain (array items)
  | object {entries : List (List Char × Json)} (names : ∀ e ∈ entries, IsScalar e.1)
    (members : ∀ e ∈ entries, IsPlain e.2) : IsPlain (object entries)

/-- An entry of an object on one line. -/
def compactEntry (e : List Char × Json) : List Char := writeText e.1 ++ ':' :: ' ' :: compact e.2

theorem compactItems_eq (items : List Json) : compactItems items = items.map compact := by
  induction items with
  | nil => rfl
  | cons j rest ih => rw [compactItems, ih, List.map_cons]

theorem compactEntries_eq (entries : List (List Char × Json)) :
    compactEntries entries = entries.map compactEntry := by
  induction entries with
  | nil => rfl
  | cons e rest ih => rw [compactEntries, ih, List.map_cons, compactEntry]

/-- The kinds of documents, by the characters they begin with. All numbers are of one kind. -/
def opening : Json → Char
  | null => 'n'
  | truth b => if b then 't' else 'f'
  | number _ => '0'
  | text _ => '\x22'
  | array _ => '['
  | object _ => '\x7b'

/-- The kind of document that begins with a character. -/
def openingOf (c : Char) : Char := if isNumeral c && ['n', 't', 'f'].all (· != c) then '0' else c

section Documents

variable {j : Json}

theorem IsPlain.exists_cons (h : IsPlain j) :
    ∃ c rest, j.compact = c :: rest ∧ openingOf c = j.opening := by
  cases h with
  | null => exact ⟨'n', ['u', 'l', 'l'], rfl, by decide⟩
  | truth b =>
    cases b
    · exact ⟨'f', ['a', 'l', 's', 'e'], rfl, by decide⟩
    · exact ⟨'t', ['r', 'u', 'e'], rfl, by decide⟩
  | number h =>
    obtain ⟨⟨hsome, hchars⟩, hhead⟩ := h
    obtain ⟨c, rest, rfl⟩ := List.exists_cons_of_ne_nil hsome
    have hnot : ['n', 't', 'f'].all (· != c) = true := by
      rw [List.all_eq_true]
      exact fun d hd => bne_iff_ne.mpr fun heq => hhead c rfl (heq ▸ hd)
    refine ⟨c, rest, by rw [compact], ?_⟩
    rw [openingOf, hchars c List.mem_cons_self, hnot]
    rfl
  | text => exact ⟨_, _, by rw [compact, writeText]; rfl, show openingOf '\x22' = '\x22' by decide⟩
  | array => exact ⟨_, _, by rw [compact]; rfl, show openingOf '[' = '[' by decide⟩
  | object => exact ⟨_, _, by rw [compact]; rfl, show openingOf '\x7b' = '\x7b' by decide⟩

/-- A document begins with no closing bracket. -/
theorem IsPlain.head_ne (h : IsPlain j) : ∃ c rest, j.compact = c :: rest ∧ c ≠ ']' := by
  obtain ⟨c, rest, hcompact, hopening⟩ := h.exists_cons
  refine ⟨c, rest, hcompact, ?_⟩
  rintro rfl
  have hbracket : openingOf ']' = ']' := by decide
  rw [hbracket] at hopening
  cases h with
  | truth b => cases b <;> exact absurd hopening (by decide)
  | _ => exact absurd hopening (by rw [opening]; decide)

/-- Documents that begin alike are of one kind. -/
theorem opening_eq {j j' : Json} {r r' : List Char} (hj : IsPlain j) (hj' : IsPlain j')
    (h : j.compact ++ r = j'.compact ++ r') : j.opening = j'.opening := by
  obtain ⟨c, rest, hcompact, hopening⟩ := hj.exists_cons
  obtain ⟨c', rest', hcompact', hopening'⟩ := hj'.exists_cons
  rw [hcompact, hcompact'] at h
  rw [← hopening, ← hopening', (List.cons.inj h).1]

theorem compactEntry_inj {e : List Char × Json} (hname : IsScalar e.1)
    (he : Shows compact IsPlain e.2) :
    Shows compactEntry (fun e => IsScalar e.1 ∧ IsPlain e.2) e := by
  rintro f r r' ⟨hname', hf⟩ hr hr' h
  simp only [compactEntry, List.append_assoc, List.cons_append] at h
  obtain ⟨hnames, h⟩ := writeText_inj hname hname' h
  obtain ⟨hmembers, hrest⟩ := he f.2 r r' hf hr hr' (List.cons.inj (List.cons.inj h).2).2
  exact ⟨Prod.ext hnames hmembers, hrest⟩

/-- Documents are of one kind that begin with the same character. -/
theorem kind_eq {j j' : Json} (h : j.opening = j'.opening) :
    match j, j' with
    | null, null | number _, number _ | text _, text _ | array _, array _ | object _, object _ => True
    | truth b, truth b' => b = b'
    | _, _ => False := by
  rcases j with _ | (_ | _) | _ | _ | _ | _ <;> rcases j' with _ | (_ | _) | _ | _ | _ | _ <;>
    first | trivial | exact absurd h (by simp [opening])

/-- A document shows what it is and where it ends. -/
theorem IsPlain.shows (hj : IsPlain j) : Shows compact IsPlain j := by
  induction hj with
  | null =>
    intro j' r r' hj' hr hr' h
    have hkind := kind_eq (opening_eq .null hj' h)
    cases hj' with
    | null => exact ⟨rfl, List.append_cancel_left h⟩
    | truth | number | text | array | object => exact hkind.elim
  | truth b =>
    intro j' r r' hj' hr hr' h
    have hkind := kind_eq (opening_eq (.truth b) hj' h)
    cases hj' with
    | truth b' =>
      obtain rfl : b = b' := hkind
      exact ⟨rfl, List.append_cancel_left h⟩
    | null | number | text | array | object => exact hkind.elim
  | number hwritten =>
    intro j' r r' hj' hr hr' h
    have hkind := kind_eq (opening_eq (.number hwritten) hj' h)
    cases hj' with
    | number hwritten' =>
      rw [compact, compact] at h
      obtain ⟨rfl, hrest⟩ := number_inj hwritten.written hwritten'.written hr hr' h
      exact ⟨rfl, hrest⟩
    | null | truth | text | array | object => exact hkind.elim
  | text hscalar =>
    intro j' r r' hj' hr hr' h
    have hkind := kind_eq (opening_eq (.text hscalar) hj' h)
    cases hj' with
    | text hscalar' =>
      rw [compact, compact] at h
      obtain ⟨rfl, hrest⟩ := writeText_inj hscalar hscalar' h
      exact ⟨rfl, hrest⟩
    | null | truth | number | array | object => exact hkind.elim
  | array hitems ih =>
    intro j' r r' hj' hr hr' h
    have hkind := kind_eq (opening_eq (.array hitems) hj' h)
    cases hj' with
    | array hitems' =>
      rw [compact, compact, compactItems_eq, compactItems_eq] at h
      simp only [List.cons_append, List.append_assoc, List.nil_append] at h
      obtain ⟨rfl, hrest⟩ := joined_inj (by decide) (by decide) (fun j hj => hj.head_ne) hitems ih
        hitems' (List.cons.inj h).2
      exact ⟨rfl, hrest⟩
    | null | truth | number | text | object => exact hkind.elim
  | object names members ih =>
    intro j' r r' hj' hr hr' h
    have hkind := kind_eq (opening_eq (.object names members) hj' h)
    cases hj' with
    | object names' members' =>
      rw [compact, compact, compactEntries_eq, compactEntries_eq] at h
      simp only [List.cons_append, List.append_assoc, List.nil_append] at h
      obtain ⟨rfl, hrest⟩ := joined_inj (by decide) (by decide)
        (fun e _ => ⟨_, _, rfl, by decide⟩) (fun e he => ⟨names e he, members e he⟩)
        (fun e he => compactEntry_inj (names e he) (ih e he))
        (fun e he => ⟨names' e he, members' e he⟩) (List.cons.inj h).2
      exact ⟨rfl, hrest⟩
    | null | truth | number | text | array => exact hkind.elim

end Documents

/-! ## Characters -/

section Ascii

variable {n : Nat} {cs : List Char} {j : Json}

theorem toNat_lt_of_all (h : (cs.all fun c => c.toNat < 128) = true) : ∀ c ∈ cs, c.toNat < 128 :=
  fun c hc => of_decide_eq_true (List.all_eq_true.mp h c hc)

theorem toNat_lt_of_mem_hex {k : Nat} (hk : 0 < k) (hn : n < 16 ^ k) :
    ∀ c ∈ Text.Quoted.hex k n, c.toNat < 128 := by
  have hdigit : ∀ d < 16, (Nat.digitChar d).toNat < 128 := by decide
  induction k, hk using Nat.le_induction generalizing n with
  | base =>
    have hhex : Text.Quoted.hex (Nat.succ 0) n = [n.digitChar] := Text.Quoted.hex_one hn
    rw [hhex]
    exact List.forall_mem_singleton.mpr (hdigit n hn)
  | succ k hk ih =>
    rw [Text.Quoted.hex_succ hk]
    exact List.forall_mem_append.mpr ⟨ih (by omega),
      List.forall_mem_singleton.mpr (hdigit _ (Nat.mod_lt _ (by decide)))⟩

theorem toNat_lt_of_mem_escapeUnit (hn : n < 0x10000) : ∀ c ∈ escapeUnit n, c.toNat < 128 :=
  List.forall_mem_cons.mpr ⟨by decide, List.forall_mem_cons.mpr
    ⟨by decide, toNat_lt_of_mem_hex (by decide) hn⟩⟩

theorem IsUnits.isAscii (h : IsUnits n cs) : ∀ c ∈ cs, c.toNat < 128 := by
  cases h with
  | one hn => exact toNat_lt_of_mem_escapeUnit hn
  | pair hn hn' =>
    exact List.forall_mem_append.mpr ⟨toNat_lt_of_mem_escapeUnit (by omega),
      toNat_lt_of_mem_escapeUnit (by omega)⟩

theorem IsEscaped.isAscii (h : IsEscaped n cs) : ∀ c ∈ cs, c.toNat < 128 := by
  cases h with
  | plain _ _ hascii => exact List.forall_mem_singleton.mpr (by omega)
  | short h =>
    have hall : ∀ a ∈ shortEscapes, a.2.toNat < 128 := by decide
    exact List.forall_mem_cons.mpr ⟨by decide, List.forall_mem_singleton.mpr (hall _ h)⟩
  | units h => exact h.isAscii

theorem isAscii_writeText (h : IsScalar cs) : ∀ c ∈ writeText cs, c.toNat < 128 := by
  rw [writeText, List.cons_append, List.forall_mem_cons, List.forall_mem_append]
  refine ⟨by decide, fun c hc => ?_, List.forall_mem_singleton.mpr (by decide)⟩
  obtain ⟨n, hn, hc⟩ := List.mem_flatMap.mp hc
  exact (isEscaped_escapeCode (h n hn)).isAscii c hc

theorem isAscii_joined {pieces : List (List Char)} (h : ∀ p ∈ pieces, ∀ c ∈ p, c.toNat < 128) :
    ∀ c ∈ joined [',', ' '] pieces, c.toNat < 128 := by
  induction pieces with
  | nil => exact nofun
  | cons p pieces ih =>
    obtain ⟨hp, hpieces⟩ := List.forall_mem_cons.mp h
    cases pieces with
    | nil => exact hp
    | cons q pieces =>
      rw [joined, List.forall_mem_append, List.forall_mem_append]
      · exact ⟨⟨hp, toNat_lt_of_all (by decide)⟩, ih hpieces⟩
      · exact List.cons_ne_nil _ _

/-- A document is written in ASCII. -/
theorem IsPlain.isAscii (h : IsPlain j) : ∀ c ∈ j.compact, c.toNat < 128 := by
  induction h with
  | null => exact toNat_lt_of_all (by decide)
  | truth b => cases b <;> exact toNat_lt_of_all (by decide)
  | number h => exact fun c hc => toNat_lt_of_isNumeral (h.written.chars c hc)
  | text h => exact isAscii_writeText h
  | array h ih =>
    rw [compact, compactItems_eq, List.cons_append, List.forall_mem_cons, List.forall_mem_append]
    exact ⟨by decide, isAscii_joined (List.forall_mem_map.mpr ih),
      List.forall_mem_singleton.mpr (by decide)⟩
  | object names members ih =>
    rw [compact, compactEntries_eq, List.cons_append, List.forall_mem_cons, List.forall_mem_append]
    refine ⟨by decide, isAscii_joined (List.forall_mem_map.mpr fun e he => ?_),
      List.forall_mem_singleton.mpr (by decide)⟩
    rw [compactEntry, List.forall_mem_append, List.forall_mem_cons, List.forall_mem_cons]
    exact ⟨isAscii_writeText (names e he), by decide, by decide, ih e he⟩

end Ascii

/-- **A document can be read off its line**: documents that are written in the same way are the
same. -/
theorem compact_injective {j j' : Json} (hj : IsPlain j) (hj' : IsPlain j')
    (h : j.compact = j'.compact) : j = j' :=
  (hj.shows j' [] [] hj' nofun nofun (by rw [h])).1

end Json

end MetesBounds
