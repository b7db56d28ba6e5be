import Mathlib.Data.List.Forall2
import MetesBounds.Proofs.Decimal.Characters
import MetesBounds.Proofs.Text.Rejoined
import MetesBounds.Sheet.Column

/-!
# `Sheet/ColumnNames` — a column's name has many spellings

The words of a column's name may be run together with a capital in front of each, or stand apart
between spaces or underscores, in small letters or in capitals. The places where an underscore has
to come in are found by looking at two characters at a time, so what is marked in a text are the
marks in its parts and those between them (`Sheet.markWords_append`). Within a word there is none,
whichever way it is written. Between words that are run together there is one before each but the
first, because a word of two characters or more ends in a small letter or a digit even with a
capital in front. Next to a space or an underscore there is none.

Main statement: `Sheet.spelling_of_columns`.
-/

set_option autoImplicit false

namespace MetesBounds

/-! ## Characters -/

namespace Text

variable {c : Char} {cs : List Char}

/-- What is so of every code below 128 is so of every character that has one. -/
theorem forall_of_lt_128 {P : Char → Prop} (h : ∀ n < 128, P (Char.ofNat n))
    (hc : c.toNat < 128) : P c := by
  have hofNat := h c.toNat hc
  rwa [Char.ofNat_toNat] at hofNat

theorem isBlank_of_isAlphanum (h : c.isAlphanum = true) : isBlank c = false :=
  forall_of_lt_128 (P := fun c => c.isAlphanum = true → isBlank c = false) (by decide +kernel)
    (toNat_lt_of_isAlphanum h) h

/-- The lower case of a plain character is its plain one. -/
theorem lowerChar_of_lt_128 (h : c.toNat < 128) : lowerChar c = c.toLower := by
  -- all runs but the first begin behind the plain characters
  have hlater : ∀ r ∈ lowerRuns.tail, 128 ≤ r.1 := by decide +kernel
  have hnone : lowerRuns.tail.find? (fun r => r.1 ≤ c.toNat && c.toNat ≤ r.2.1 &&
      (c.toNat - r.1) % r.2.2.1 == 0) = none := by
    refine List.find?_eq_none.mpr fun r hr => ?_
    have hbegin := hlater r hr
    rw [decide_eq_false (by omega), Bool.false_and, Bool.false_and]
    exact Bool.false_ne_true
  have hruns : lowerRuns = (0x41, 0x5A, 1, 32) :: lowerRuns.tail := rfl
  rw [lowerChar, hruns, List.find?_cons, hnone]
  by_cases hcapital : 65 ≤ c.toNat ∧ c.toNat ≤ 90
  · rw [decide_eq_true hcapital.1, decide_eq_true hcapital.2, Nat.mod_one]
    exact forall_of_lt_128 (P := fun c => 65 ≤ c.toNat ∧ c.toNat ≤ 90 →
      Char.ofNat (c.toNat + 32) = c.toLower) (by decide +kernel) h hcapital
  · rw [← Bool.decide_and, decide_eq_false hcapital, Decimal.toLower_eq_self (by omega)]
    rfl

/-- Plain characters are put in lower case one by one. -/
theorem lowerAfter_of_lt_128 (h : ∀ c ∈ cs, c.toNat < 128) (before : List Char) :
    lowerAfter before cs = cs.map Char.toLower := by
  induction cs generalizing before with
  | nil => rfl
  | cons c cs ih =>
    rw [List.forall_mem_cons] at h
    have hne (d : Char) (hd : ¬d.toNat < 128) : (c == d) = false :=
      beq_eq_false_iff_ne.mpr fun hc => hd (hc ▸ h.1)
    rw [lowerAfter, hne 'Σ' (by decide), hne 'İ' (by decide), ih h.2, lowerChar_of_lt_128 h.1]
    rfl

theorem map_intercalate (f : Char → Char) (sep : List Char) (cells : List (List Char)) :
    (sep.intercalate cells).map f = (sep.map f).intercalate (cells.map (List.map f)) := by
  induction cells with
  | nil => rfl
  | cons cell rest ih =>
    cases rest with
    | nil => rw [List.map_singleton, List.intercalate_singleton, List.intercalate_singleton]
    | cons cell' rest =>
      rw [List.intercalate_cons_cons, List.map_append, List.map_append, ih, List.map_cons,
        List.map_cons, List.map_cons, List.intercalate_cons_cons]

/-- What holds none of a class has none at its ends. -/
theorem tight_of_forall {p : Char → Bool} (h : ∀ c ∈ cs, p c = false) : Tight p cs :=
  ⟨fun c hc => h c (List.mem_of_head? hc), fun c hc => h c (List.mem_of_getLast? hc)⟩

/-- All white space around some characters is taken away, and nothing else. -/
theorem trimBoth_between {p : Char → Bool} (ht : Tight p cs) {before after : List Char}
    (hbefore : ∀ c ∈ before, p c = true) (hafter : ∀ c ∈ after, p c = true) :
    trimBoth p (before ++ cs ++ after) = cs := by
  have hfront : (before ++ cs).dropWhile p = cs.dropWhile p := List.dropWhile_append_of_pos hbefore
  rw [trimBoth_append_of_all hafter, ← trimBoth_dropWhile, hfront, trimBoth_dropWhile,
    trimBoth_eq_self_iff.mpr ht]

end Text

namespace Sheet

/-! ## Where words begin -/

section Marks

variable {before c : Char} {cs : List Char}

/-- What is marked in a text is marked in its parts, each after what is before it. -/
theorem markWords_append (before : Char) (front back : List Char) :
    markWords before (front ++ back) =
      markWords before front ++ markWords (front.getLastD before) back := by
  induction front generalizing before with
  | nil => rfl
  | cons c front ih =>
    rw [List.cons_append, markWords, markWords, ih, List.getLastD_cons]
    split <;> rfl

/-- Nothing is marked after what ends no word, as at the beginning. -/
theorem markWords_of_not_endsWord (h : endsWord before = false) (cs : List Char) :
    markWords before cs = markWords ' ' cs := by
  cases cs with
  | nil => rfl
  | cons c cs =>
    rw [markWords, markWords, h]
    rfl

theorem markWords_cons_of_not_isCapital (h : isCapital c = false) (before : Char) (cs : List Char) :
    markWords before (c :: cs) = c :: markWords c cs := by
  rw [markWords, h, Bool.and_false, if_neg Bool.false_ne_true]

/-- A capital after the end of a word begins another. -/
theorem markWords_cons_of_isCapital (hend : endsWord before = true) (h : isCapital c = true)
    (cs : List Char) : markWords before (c :: cs) = '_' :: markWords ' ' (c :: cs) := by
  rw [markWords, hend, h, markWords]
  rfl

/-- Without capitals there is nothing to mark. -/
theorem markWords_of_forall_not_isCapital (h : ∀ c ∈ cs, isCapital c = false) (before : Char) :
    markWords before cs = cs := by
  induction cs generalizing before with
  | nil => rfl
  | cons c cs ih =>
    rw [List.forall_mem_cons] at h
    rw [markWords_cons_of_not_isCapital h.1, ih h.2]

/-- Nor is there in capitals alone. -/
theorem markWords_of_forall_not_endsWord (h : ∀ c ∈ cs, endsWord c = false) :
    markWords ' ' cs = cs := by
  induction cs with
  | nil => rfl
  | cons c cs ih =>
    rw [List.forall_mem_cons] at h
    have hc : markWords ' ' (c :: cs) = c :: markWords c cs := rfl
    rw [hc, markWords_of_not_endsWord h.1, ih h.2]

/-- Parts that stand apart are marked each on its own. -/
theorem markWords_intercalate {sep : Char} (hends : endsWord sep = false)
    (hcapital : isCapital sep = false) {cells : List (List Char)}
    (h : ∀ cell ∈ cells, markWords ' ' cell = cell) :
    markWords ' ' ([sep].intercalate cells) = [sep].intercalate cells := by
  induction cells with
  | nil => rfl
  | cons cell rest ih =>
    rw [List.forall_mem_cons] at h
    cases rest with
    | nil => rw [List.intercalate_singleton, h.1]
    | cons cell' rest =>
      rw [List.intercalate_cons_cons, List.append_assoc, markWords_append, h.1,
        List.singleton_append, markWords_cons_of_not_isCapital hcapital,
        markWords_of_not_endsWord hends, ih h.2]

end Marks

/-! ## Small letters and digits -/

/-- A small letter or a digit. -/
def IsSmall (c : Char) : Prop := c.isLower = true ∨ c.isDigit = true

instance : DecidablePred IsSmall :=
  fun c => inferInstanceAs (Decidable (c.isLower = true ∨ c.isDigit = true))

namespace IsSmall

variable {c : Char} (h : IsSmall c)

include h

theorem isAlphanum : c.isAlphanum = true := by
  have hcases : c.isAlpha = true ∨ c.isDigit = true :=
    h.imp_left fun hlower => (Bool.or_eq_true c.isUpper c.isLower).mpr (.inr hlower)
  exact (Bool.or_eq_true c.isAlpha c.isDigit).mpr hcases

theorem toNat_lt : c.toNat < 128 := toNat_lt_of_isAlphanum h.isAlphanum

theorem toLower_eq : c.toLower = c :=
  Text.forall_of_lt_128 (P := fun c => IsSmall c → c.toLower = c) (by decide +kernel) h.toNat_lt h

theorem endsWord : endsWord c = true := (Bool.or_eq_true c.isLower c.isDigit).mpr h

theorem not_isCapital : isCapital c = false :=
  Text.forall_of_lt_128 (P := fun c => IsSmall c → isCapital c = false) (by decide +kernel)
    h.toNat_lt h

/-- In lower case its capital is the letter again. -/
theorem toLower_toUpper : c.toUpper.toLower = c :=
  Text.forall_of_lt_128 (P := fun c => IsSmall c → c.toUpper.toLower = c) (by decide +kernel)
    h.toNat_lt h

theorem isAlphanum_toUpper : c.toUpper.isAlphanum = true :=
  Text.forall_of_lt_128 (P := fun c => IsSmall c → c.toUpper.isAlphanum = true)
    (by decide +kernel) h.toNat_lt h

end IsSmall

theorem isCapital_toUpper {c : Char} (h : c.isLower = true) : isCapital c.toUpper = true :=
  Text.forall_of_lt_128 (P := fun c => c.isLower = true → isCapital c.toUpper = true)
    (by decide +kernel) (IsSmall.toNat_lt (.inl h)) h

theorem not_endsWord_toUpper {c : Char} (h : c.isLower = true) : endsWord c.toUpper = false :=
  Text.forall_of_lt_128 (P := fun c => c.isLower = true → endsWord c.toUpper = false)
    (by decide +kernel) (IsSmall.toNat_lt (.inl h)) h

theorem not_isCapital_toUpper {c : Char} (h : c.isDigit = true) : isCapital c.toUpper = false :=
  Text.forall_of_lt_128 (P := fun c => c.isDigit = true → isCapital c.toUpper = false)
    (by decide +kernel) (IsSmall.toNat_lt (.inr h)) h

/-! ## Words -/

/-- A word of a column's name: small letters, digits behind them or none, and two characters at
least. -/
structure ColumnWord where
  first : Char
  letters : List Char
  digits : List Char
  first_isLower : first.isLower = true
  letters_isLower : ∀ c ∈ letters, c.isLower = true
  digits_isDigit : ∀ c ∈ digits, c.isDigit = true
  rest_ne_nil : letters ++ digits ≠ []

namespace ColumnWord

/-- The characters of a word. -/
def chars (w : ColumnWord) : List Char := w.first :: (w.letters ++ w.digits)

/-- A word with a capital in front. -/
def capitalised (w : ColumnWord) : List Char := w.first.toUpper :: (w.letters ++ w.digits)

/-- A word in capitals. -/
def capitals (w : ColumnWord) : List Char := w.chars.map Char.toUpper

/-- Some characters are a way to write a word: letters and digits that come to the word in lower
case, with no place where another word begins. -/
structure IsForm (w : ColumnWord) (form : List Char) : Prop where
  isAlphanum : ∀ c ∈ form, c.isAlphanum = true
  lower : form.map Char.toLower = w.chars
  unmarked : markWords ' ' form = form

theorem IsForm.ne_nil {w : ColumnWord} {form : List Char} (h : w.IsForm form) : form ≠ [] := by
  rintro rfl
  exact nomatch h.lower

section Forms

variable (w : ColumnWord)

theorem isLower_of_mem {c : Char} (h : c ∈ w.first :: w.letters) : c.isLower = true := by
  rcases List.mem_cons.mp h with rfl | h
  · exact w.first_isLower
  · exact w.letters_isLower c h

theorem isSmall_of_mem {c : Char} (h : c ∈ w.chars) : IsSmall c := by
  rw [chars, ← List.cons_append, List.mem_append] at h
  exact h.imp w.isLower_of_mem (w.digits_isDigit c)

theorem isForm_chars : w.IsForm w.chars where
  isAlphanum _ hc := (w.isSmall_of_mem hc).isAlphanum
  lower := (List.map_congr_left fun _ hc => (w.isSmall_of_mem hc).toLower_eq).trans
    (List.map_id' w.chars)
  unmarked := markWords_of_forall_not_isCapital
    (fun _ hc => (w.isSmall_of_mem hc).not_isCapital) ' '

theorem isForm_capitalised : w.IsForm w.capitalised := by
  have hfirst : IsSmall w.first := .inl w.first_isLower
  have hrest : ∀ c ∈ w.letters ++ w.digits, IsSmall c :=
    fun c hc => w.isSmall_of_mem (List.mem_cons_of_mem _ hc)
  constructor
  · rw [capitalised, List.forall_mem_cons]
    exact ⟨hfirst.isAlphanum_toUpper, fun c hc => (hrest c hc).isAlphanum⟩
  · have hmap : (w.letters ++ w.digits).map Char.toLower = w.letters ++ w.digits :=
      (List.map_congr_left fun c hc => (hrest c hc).toLower_eq).trans (List.map_id' _)
    rw [capitalised, List.map_cons, hfirst.toLower_toUpper, hmap, chars]
  · -- only the first character is a capital, and nothing is in front of it
    have hcons : markWords ' ' w.capitalised =
        w.first.toUpper :: markWords w.first.toUpper (w.letters ++ w.digits) := rfl
    rw [hcons, markWords_of_forall_not_isCapital fun c hc => (hrest c hc).not_isCapital]
    rfl

theorem isForm_capitals : w.IsForm w.capitals := by
  constructor
  · exact List.forall_mem_map.mpr fun c hc => (w.isSmall_of_mem hc).isAlphanum_toUpper
  · rw [capitals, List.map_map]
    exact (List.map_congr_left fun c hc => (w.isSmall_of_mem hc).toLower_toUpper).trans
      (List.map_id' w.chars)
  · -- behind a capital no word begins, and digits begin none
    have hletters : ∀ c ∈ (w.first :: w.letters).map Char.toUpper, endsWord c = false :=
      List.forall_mem_map.mpr fun c hc => not_endsWord_toUpper (w.isLower_of_mem hc)
    have hdigits : ∀ c ∈ w.digits.map Char.toUpper, isCapital c = false :=
      List.forall_mem_map.mpr fun c hc => not_isCapital_toUpper (w.digits_isDigit c hc)
    rw [capitals, chars, ← List.cons_append, List.map_append, markWords_append,
      markWords_of_forall_not_endsWord hletters, markWords_of_forall_not_isCapital hdigits]

/-- As a word has two characters or more, it ends in a small letter or a digit whatever its first
one is. -/
theorem endsWord_getLastD (first before : Char) :
    endsWord ((first :: (w.letters ++ w.digits)).getLastD before) = true := by
  obtain ⟨c, cs, hcons⟩ := List.exists_cons_of_ne_nil w.rest_ne_nil
  have hmem : cs.getLastD c ∈ w.chars :=
    List.mem_cons_of_mem _ (hcons ▸ List.getLastD_mem_cons)
  rw [List.getLastD_cons, hcons, List.getLastD_cons]
  exact (w.isSmall_of_mem hmem).endsWord

end Forms

end ColumnWord

open ColumnWord (IsForm)

/-- Words with a capital in front are marked where each of them begins. -/
theorem markWords_append_flatMap {first : List Char} (hfirst : markWords ' ' first = first)
    (hends : endsWord (first.getLastD ' ') = true) (words : List ColumnWord) :
    markWords ' ' (first ++ words.flatMap ColumnWord.capitalised) =
      ['_'].intercalate (first :: words.map ColumnWord.capitalised) := by
  induction words generalizing first with
  | nil =>
    rw [List.flatMap_nil, List.append_nil, hfirst, List.map_nil, List.intercalate_singleton]
  | cons w words ih =>
    have hcapital : isCapital w.first.toUpper = true := isCapital_toUpper w.first_isLower
    -- from its capital on it is as at the beginning, but with an underscore in front
    have hnext : markWords ' ' (w.first.toUpper :: (w.letters ++ w.digits) ++
        words.flatMap ColumnWord.capitalised) =
        ['_'].intercalate (w.capitalised :: words.map ColumnWord.capitalised) :=
      ih w.isForm_capitalised.unmarked (w.endsWord_getLastD _ _)
    rw [List.flatMap_cons, markWords_append, hfirst, ColumnWord.capitalised, List.cons_append,
      markWords_cons_of_isCapital hends hcapital, ← List.cons_append, hnext, List.map_cons,
      List.intercalate_cons_cons, List.append_assoc]
    rfl

/-! ## Names -/

/-- The name of a field: its words with underscores between them. -/
def underscored (words : List ColumnWord) : List Char :=
  ['_'].intercalate (words.map ColumnWord.chars)

/-- The ways to spell a column's name, given its words. -/
inductive Spelled : List ColumnWord → List Char → Prop
  /-- The words run together, with a capital in front of each. -/
  | camel (words : List ColumnWord) : Spelled words (words.flatMap ColumnWord.capitalised)
  /-- The words run together, with a capital in front of each but the first. -/
  | smallCamel (w : ColumnWord) (words : List ColumnWord) :
    Spelled (w :: words) (w.chars ++ words.flatMap ColumnWord.capitalised)
  /-- Spaces between the words, some of which may have a capital in front. -/
  | spaced {words : List ColumnWord} {forms : List (List Char)}
    (h : List.Forall₂ (fun w form => form = w.chars ∨ form = w.capitalised) words forms) :
    Spelled words ([' '].intercalate forms)
  /-- Underscores between the words. -/
  | underscored (words : List ColumnWord) : Spelled words (underscored words)
  /-- Underscores between the words, and all of it in capitals. -/
  | capitals (words : List ColumnWord) : Spelled words ((underscored words).map Char.toUpper)

section Columns

variable {words : List ColumnWord} {name before after : List Char} {forms : List (List Char)}

theorem forall₂_map {write : ColumnWord → List Char} (h : ∀ w, IsForm w (write w))
    (words : List ColumnWord) : List.Forall₂ IsForm words (words.map write) :=
  List.forall₂_map_right_iff.mpr (List.forall₂_same.mpr fun w _ => h w)

theorem exists_isForm (h : List.Forall₂ IsForm words forms) :
    ∀ form ∈ forms, ∃ w : ColumnWord, w.IsForm form := by
  induction h with
  | nil => exact nofun
  | cons hform _ ih => exact List.forall_mem_cons.mpr ⟨⟨_, hform⟩, ih⟩

theorem map_lower_of_forall₂ (h : List.Forall₂ IsForm words forms) :
    forms.map (List.map Char.toLower) = words.map ColumnWord.chars := by
  induction h with
  | nil => rfl
  | cons hform _ ih => rw [List.map_cons, List.map_cons, hform.lower, ih]

variable (hbefore : ∀ c ∈ before, Text.isBlank c = true)
  (hafter : ∀ c ∈ after, Text.isBlank c = true)

include hbefore hafter

/-- A name that is marked as words that stand apart is that of the words. -/
theorem columnField_of_marked (ht : Text.Tight Text.isBlank name) {sep : Char}
    (hsep : sep = ' ' ∨ sep = '_') (hforms : List.Forall₂ IsForm words forms)
    (hmarked : markWords ' ' name = [sep].intercalate forms) :
    columnField (String.ofList (before ++ name ++ after)) = String.ofList (underscored words) := by
  have hplain : ∀ form ∈ forms, ∀ c ∈ form, c.isAlphanum = true := fun form hform =>
    have ⟨_, hw⟩ := exists_isForm hforms form hform
    hw.isAlphanum
  have hspaces : ([sep].intercalate forms).map (fun c => if c == ' ' then '_' else c) =
      ['_'].intercalate forms := by
    have hform : forms.map (List.map fun c => if c == ' ' then '_' else c) = forms := by
      refine (List.map_congr_left fun form hform => ?_).trans (List.map_id' forms)
      refine (List.map_congr_left fun c hc => if_neg ?_).trans (List.map_id' form)
      rw [beq_iff_eq]
      rintro rfl
      exact absurd (hplain form hform ' ' hc) (by decide)
    rw [Text.map_intercalate, hform]
    rcases hsep with rfl | rfl <;> rfl
  have hascii : ∀ c ∈ ['_'].intercalate forms, c.toNat < 128 := by
    intro c hc
    rcases Text.mem_intercalate hc with hc | ⟨form, hform, hc⟩
    · rw [List.mem_singleton.mp hc]
      decide
    · exact toNat_lt_of_isAlphanum (hplain form hform c hc)
  rw [columnField, String.toList_ofList, Text.trimBoth_between ht hbefore hafter, hmarked, hspaces,
    Text.toLower, String.toList_ofList, Text.lowerAfter_of_lt_128 hascii, Text.map_intercalate,
    map_lower_of_forall₂ hforms]
  rfl

/-- Words that stand apart are those of the name. -/
theorem columnField_intercalate {sep : Char} (hsep : sep = ' ' ∨ sep = '_')
    (hforms : List.Forall₂ IsForm words forms) :
    columnField (String.ofList (before ++ [sep].intercalate forms ++ after)) =
      String.ofList (underscored words) := by
  refine columnField_of_marked hbefore hafter ?_ hsep hforms ?_
  · cases forms with
    | nil => exact ⟨nofun, nofun⟩
    | cons form rest =>
      obtain ⟨_, hform⟩ := exists_isForm hforms form List.mem_cons_self
      refine Text.tight_intercalate (List.cons_ne_nil sep []) hform.ne_nil ?_ (.inr fun hlast => ?_)
      · intro form' hform'
        obtain ⟨_, hform'⟩ := exists_isForm hforms form' hform'
        exact Text.tight_of_forall fun c hc => Text.isBlank_of_isAlphanum (hform'.isAlphanum c hc)
      · obtain ⟨_, hnil⟩ := exists_isForm hforms [] (List.mem_of_getLast? hlast)
        exact hnil.ne_nil rfl
  · have hunmarked : ∀ form ∈ forms, markWords ' ' form = form := fun form hform =>
      have ⟨_, hw⟩ := exists_isForm hforms form hform
      hw.unmarked
    rcases hsep with rfl | rfl <;> exact markWords_intercalate (by decide) (by decide) hunmarked

/-- Words that run together are those of the name. -/
theorem columnField_flatMap {w : ColumnWord} {first : List Char} (hfirst : w.IsForm first)
    (hends : endsWord (first.getLastD ' ') = true) (words : List ColumnWord) :
    columnField (String.ofList
        (before ++ (first ++ words.flatMap ColumnWord.capitalised) ++ after)) =
      String.ofList (underscored (w :: words)) := by
  have hforms := forall₂_map ColumnWord.isForm_capitalised words
  refine columnField_of_marked hbefore hafter ?_ (.inr rfl) (.cons hfirst hforms)
    (markWords_append_flatMap hfirst.unmarked hends words)
  refine Text.tight_of_forall fun c hc => Text.isBlank_of_isAlphanum ?_
  rcases List.mem_append.mp hc with hc | hc
  · exact hfirst.isAlphanum c hc
  · obtain ⟨w, -, hc⟩ := List.mem_flatMap.mp hc
    exact w.isForm_capitalised.isAlphanum c hc

/-- The name of a field is the name of a column for it. -/
theorem columnField_underscored (words : List ColumnWord) :
    columnField (String.ofList (before ++ underscored words ++ after)) =
      String.ofList (underscored words) :=
  columnField_intercalate hbefore hafter (.inr rfl) (forall₂_map ColumnWord.isForm_chars words)

end Columns

theorem map_toUpper_underscored (words : List ColumnWord) :
    (underscored words).map Char.toUpper = ['_'].intercalate (words.map ColumnWord.capitals) := by
  rw [underscored, Text.map_intercalate, List.map_map]
  rfl

/-- **However the words of a column's name are spelled, it stands for one field.** Take any words,
each of them small letters with digits behind them or none, two characters at least, and run them
together with a capital in front of each or of each but the first, or put spaces between them with
a capital in front of some, or underscores, all in small letters or all in capitals. With any white
space around it the name stands for the field whose name is the words with underscores between
them; and the name of that field stands for itself. -/
theorem spelling_of_columns (words : List ColumnWord) :
    (∀ name before after : List Char, Spelled words name →
      (∀ c ∈ before, Text.isBlank c = true) → (∀ c ∈ after, Text.isBlank c = true) →
        columnField (String.ofList (before ++ name ++ after)) =
          String.ofList (underscored words)) ∧
      columnField (String.ofList (underscored words)) = String.ofList (underscored words) := by
  refine ⟨fun name before after h hbefore hafter => ?_, ?_⟩
  · cases h with
    | camel =>
      cases words with
      | nil =>
        have hnone : [].flatMap ColumnWord.capitalised = underscored [] := rfl
        rw [hnone]
        exact columnField_underscored hbefore hafter []
      | cons w words =>
        rw [List.flatMap_cons]
        exact columnField_flatMap hbefore hafter w.isForm_capitalised
          (w.endsWord_getLastD _ _) words
    | smallCamel w words =>
      exact columnField_flatMap hbefore hafter w.isForm_chars (w.endsWord_getLastD _ _) words
    | spaced hforms =>
      refine columnField_intercalate hbefore hafter (.inl rfl) (hforms.imp ?_)
      rintro w form (rfl | rfl)
      · exact w.isForm_chars
      · exact w.isForm_capitalised
    | underscored => exact columnField_underscored hbefore hafter words
    | capitals =>
      rw [map_toUpper_underscored]
      exact columnField_intercalate hbefore hafter (.inr rfl)
        (forall₂_map ColumnWord.isForm_capitals words)
  · have hself : columnField (String.ofList ([] ++ underscored words ++ [])) =
        String.ofList (underscored words) :=
      columnField_underscored (List.forall_mem_nil _) (List.forall_mem_nil _) words
    rwa [List.nil_append, List.append_nil] at hself

/-- Digits in front of a capital, a word of one letter and a digit, and white space of two kinds. -/
theorem spelling_of_columns_turn :
    let words : List ColumnWord :=
      [⟨'t', ['u', 'r', 'n'], ['2'], rfl, List.all_eq_true.mp rfl, List.all_eq_true.mp rfl,
          nofun⟩,
        ⟨'f', ['o', 'r'], [], rfl, List.all_eq_true.mp rfl, nofun, nofun⟩,
        ⟨'n', [], ['1'], rfl, nofun, List.all_eq_true.mp rfl, nofun⟩]
    Spelled words "Turn2ForN1".toList ∧ Spelled words "Turn2 for N1".toList ∧
      Text.isBlank '\t' = true ∧ Text.isBlank '\u00a0' = true ∧
      columnField "\tTurn2ForN1\u00a0" = "turn2_for_n1" ∧
      columnField "Turn2 for N1\t" = "turn2_for_n1" ∧
      columnField "turn2_for_n1" = "turn2_for_n1" := by
  intro words
  obtain ⟨hall, hself⟩ := spelling_of_columns words
  have hcamel : Spelled words "Turn2ForN1".toList := .camel words
  have hspaced : Spelled words "Turn2 for N1".toList :=
    @Spelled.spaced words ["Turn2".toList, "for".toList, "N1".toList]
      (.cons (.inr rfl) (.cons (.inl rfl) (.cons (.inr rfl) .nil)))
  have htab : Text.isBlank '\t' = true := by decide
  have hnoBreak : Text.isBlank '\u00a0' = true := by decide
  have hfield : "turn2_for_n1" = String.ofList (underscored words) := rfl
  have hfirst : "\tTurn2ForN1\u00a0" =
    String.ofList (['\t'] ++ "Turn2ForN1".toList ++ ['\u00a0']) := rfl
  have hsecond : "Turn2 for N1\t" = String.ofList ([] ++ "Turn2 for N1".toList ++ ['\t']) := rfl
  rw [hfirst, hsecond, hfield]
  refine ⟨hcamel, hspaced, htab, hnoBreak, ?_, ?_, hself⟩
  · exact hall _ ['\t'] ['\u00a0'] hcamel (List.forall_mem_singleton.mpr htab)
      (List.forall_mem_singleton.mpr hnoBreak)
  · exact hall _ [] ['\t'] hspaced nofun (List.forall_mem_singleton.mpr htab)

end Sheet

end MetesBounds
