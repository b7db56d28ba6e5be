import MetesBounds.Number

/-!
# `Decimal/Characters` — the characters of a number

A number is written in letters, digits, points and signs, and in at least one of them. What
separates numbers from each other never stands in one. A finite double has a point or an exponent,
which no whole number has.

Main statement: `Number.isWritten_text`.
-/

set_option autoImplicit false

namespace MetesBounds

/-- Whether a character may stand in a number. -/
def isNumeral (c : Char) : Bool := c.isAlphanum || c == '.' || c == '-' || c == '+'

/-- Plain letters and digits have codes below 128. -/
theorem toNat_lt_of_isAlphanum {c : Char} (h : c.isAlphanum = true) : c.toNat < 128 := by
  have hcases : (c.isUpper = true ∨ c.isLower = true) ∨ c.isDigit = true :=
    ((Bool.or_eq_true _ _).mp h).imp_left (Bool.or_eq_true _ _).mp
  rcases hcases with (h | h) | h
  · have hle : c.toNat ≤ 90 := (of_decide_eq_true h).2
    omega
  · have hle : c.toNat ≤ 122 := of_decide_eq_true ((Bool.and_eq_true _ _).mp h).2
    omega
  · have hle : c.toNat ≤ 57 := (Char.isDigit_iff_toNat.mp h).2
    omega

theorem toNat_lt_of_isNumeral {c : Char} (h : isNumeral c = true) : c.toNat < 128 := by
  simp only [isNumeral, Bool.or_eq_true, beq_iff_eq] at h
  rcases h with ((h | rfl) | rfl) | rfl
  · exact toNat_lt_of_isAlphanum h
  · decide
  · decide
  · decide

/-- Some characters, all of which may stand in a number. -/
structure IsWritten (cs : List Char) : Prop where
  some : cs ≠ []
  chars : ∀ c ∈ cs, isNumeral c = true

theorem IsWritten.of_all {cs : List Char} (h : (!cs.isEmpty && cs.all isNumeral) = true) :
    IsWritten cs := by
  rw [Bool.and_eq_true, List.all_eq_true, Bool.not_eq_true', List.isEmpty_eq_false_iff] at h
  exact ⟨h.1, h.2⟩

/-- Whether a character may stand in a finite number. -/
def isFigure (c : Char) : Bool := c.isDigit || c == '.' || c == '-' || c == '+' || c == 'e'

/-- Some characters, all of which may stand in a finite number. -/
structure IsFigured (cs : List Char) : Prop where
  some : cs ≠ []
  chars : ∀ c ∈ cs, isFigure c = true

theorem isNumeral_of_isFigure {c : Char} (h : isFigure c = true) : isNumeral c = true := by
  simp only [isFigure, Bool.or_eq_true, beq_iff_eq] at h
  rcases h with (((h | rfl) | rfl) | rfl) | rfl
  · simp [isNumeral, Char.isAlphanum, h]
  · rfl
  · rfl
  · rfl
  · rfl

theorem IsFigured.isWritten {cs : List Char} (h : IsFigured cs) : IsWritten cs :=
  ⟨h.some, fun c hc => isNumeral_of_isFigure (h.chars c hc)⟩

theorem IsFigured.cons {c : Char} {cs : List Char} (hc : isFigure c = true)
    (hcs : ∀ c ∈ cs, isFigure c = true) : IsFigured (c :: cs) where
  some := List.cons_ne_nil c cs
  chars := List.forall_mem_cons.mpr ⟨hc, hcs⟩

theorem isFigured_toDigits (n : Nat) : IsFigured (Nat.toDigits 10 n) where
  some := Nat.toDigits_ne_nil
  chars c hc := by
    have hdigit := Nat.isDigit_of_mem_toDigits (by decide) (by decide) hc
    simp [isFigure, hdigit]

namespace Decimal

variable {ds : List Char}

/-- A double is told from a whole number by its point or its exponent. -/
def IsPointed (cs : List Char) : Prop := '.' ∈ cs ∨ 'e' ∈ cs

theorem isFigure_replicate (k : Nat) : ∀ c ∈ List.replicate k '0', isFigure c = true := by
  intro c hc
  rw [List.eq_of_mem_replicate hc]
  rfl

theorem isFigured_positional (h : ∀ c ∈ ds, isFigure c = true) (lead : Int) :
    IsFigured (positional ds lead) ∧ IsPointed (positional ds lead) := by
  rw [positional]
  split
  · refine ⟨.cons rfl (List.forall_mem_cons.mpr
      ⟨rfl, List.forall_mem_append.mpr ⟨isFigure_replicate _, h⟩⟩), .inl ?_⟩
    exact List.mem_cons_of_mem _ List.mem_cons_self
  · have hfilled : ∀ k, ∀ c ∈ ds ++ List.replicate k '0', isFigure c = true :=
      fun k => List.forall_mem_append.mpr ⟨h, isFigure_replicate k⟩
    dsimp only
    refine ⟨⟨by simp, List.forall_mem_append.mpr ⟨fun c hc => hfilled _ c (List.mem_of_mem_take hc),
      List.forall_mem_cons.mpr ⟨rfl, ?_⟩⟩⟩, .inl (List.mem_append_right _ List.mem_cons_self)⟩
    split
    · exact List.forall_mem_singleton.mpr rfl
    · exact fun c hc => hfilled _ c (List.mem_of_mem_drop hc)

theorem isFigured_scientific (h : ∀ c ∈ ds, isFigure c = true) (lead : Int) :
    IsFigured (scientific ds lead) ∧ IsPointed (scientific ds lead) := by
  rw [scientific]
  refine ⟨⟨by simp, ?_⟩, .inr (by simp)⟩
  have hfraction : ∀ c ∈ if (ds.drop 1).isEmpty then [] else '.' :: ds.drop 1,
      isFigure c = true := by
    split
    · exact nofun
    · exact List.forall_mem_cons.mpr ⟨rfl, fun c hc => h c (List.mem_of_mem_drop hc)⟩
  have hsign : isFigure (if lead < 0 then '-' else '+') = true := by split <;> rfl
  have hwhole : ∀ c ∈ ds.take 1, isFigure c = true := fun c hc => h c (List.mem_of_mem_take hc)
  simp only [List.forall_mem_append, List.forall_mem_cons]
  exact ⟨⟨⟨hwhole, hfraction⟩, rfl, hsign, isFigure_replicate _⟩, (isFigured_toDigits _).chars⟩

theorem isFigure_significant (n : Nat) : ∀ c ∈ significant n, isFigure c = true := by
  intro c hc
  rw [significant, List.mem_reverse] at hc
  exact (isFigured_toDigits n).chars c (List.mem_reverse.mp ((List.dropWhile_sublist _).subset hc))

theorem isFigured_zero : IsFigured ['0', '.', '0'] ∧ IsPointed ['0', '.', '0'] :=
  ⟨⟨by decide, List.all_eq_true.mp (by decide)⟩, .inl (List.mem_cons_of_mem _ List.mem_cons_self)⟩

theorem isFigured_write (layout : Layout) (d : Digits) :
    IsFigured (d.write layout) ∧ IsPointed (d.write layout) := by
  rw [Digits.write]
  split
  · exact isFigured_zero
  · dsimp only
    split
    · exact isFigured_positional (isFigure_significant _) _
    · exact isFigured_scientific (isFigure_significant _) _

/-- A finite double is written in digits with a point or an exponent, any other with a name. -/
theorem shortestText_cases (layout : Layout) (x : Float) :
    match Binary64.ofFloat x with
    | .notANumber => (shortestText layout x).toList = "nan".toList
    | .infinite negative =>
      (shortestText layout x).toList = (if negative then "-inf" else "inf").toList
    | .finite _ _ _ =>
      IsFigured (shortestText layout x).toList ∧ IsPointed (shortestText layout x).toList := by
  rw [shortestText]
  cases Binary64.ofFloat x with
  | notANumber => rfl
  | infinite negative => rfl
  | finite negative m q =>
    have hdigits : IsFigured (if m = 0 then ['0', '.', '0'] else (shortest m q).write layout) ∧
        IsPointed (if m = 0 then ['0', '.', '0'] else (shortest m q).write layout) := by
      split
      · exact isFigured_zero
      · exact isFigured_write layout _
    dsimp only
    rw [String.toList_ofList]
    split
    · exact ⟨.cons rfl hdigits.1.chars,
        hdigits.2.imp (List.mem_cons_of_mem _) (List.mem_cons_of_mem _)⟩
    · exact hdigits

theorem isWritten_shortestText (layout : Layout) (x : Float) :
    IsWritten (shortestText layout x).toList := by
  have hcases := shortestText_cases layout x
  cases hx : Binary64.ofFloat x with
  | notANumber =>
    rw [hx] at hcases
    rw [hcases]
    exact .of_all (by decide)
  | infinite negative =>
    rw [hx] at hcases
    rw [hcases]
    cases negative <;> exact .of_all (by decide)
  | finite negative m q =>
    rw [hx] at hcases
    exact hcases.1.isWritten

end Decimal

/-- A whole number is written in digits behind an optional sign. -/
theorem Number.text_whole_chars (k : Int) :
    IsFigured (Number.whole k).text.toList ∧ ¬Decimal.IsPointed (Number.whole k).text.toList := by
  have hdigits (k : Nat) : ¬Decimal.IsPointed (Nat.toDigits 10 k) := by
    have hdigit := fun c hc => Nat.isDigit_of_mem_toDigits (b := 10) (n := k) (c := c) (by decide)
      (by decide) hc
    rintro (h | h) <;> exact absurd (hdigit _ h) (by decide)
  cases k with
  | ofNat k =>
    have htext : (Number.whole (.ofNat k)).text.toList = Nat.toDigits 10 k := Nat.toList_repr
    rw [htext]
    exact ⟨isFigured_toDigits k, hdigits k⟩
  | negSucc k =>
    have htext : (Number.whole (.negSucc k)).text.toList = '-' :: Nat.toDigits 10 (k + 1) := by
      show ("-" ++ (k + 1).repr).toList = _
      rw [String.toList_append, Nat.toList_repr]
      rfl
    rw [htext]
    refine ⟨.cons rfl (isFigured_toDigits (k + 1)).chars, fun h => hdigits (k + 1) ?_⟩
    exact h.imp (fun h => (List.mem_cons.mp h).resolve_left (by decide))
      fun h => (List.mem_cons.mp h).resolve_left (by decide)

/-- **A number is written in letters, digits, points and signs.** -/
theorem Number.isWritten_text (n : Number) : IsWritten n.text.toList := by
  cases n with
  | truth b => cases b <;> exact .of_all (by decide)
  | whole k => exact (Number.text_whole_chars k).1.isWritten
  | real x => exact Decimal.isWritten_shortestText layout x

end MetesBounds
