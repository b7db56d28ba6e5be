import MetesBounds.Curve.OnSphere
import MetesBounds.Proofs.Calculation
import MetesBounds.Proofs.Text.Joined

/-!
# `Calculation/Akin` — calculations that differ in what they show at most

A value in which a traverse stands is shown with all that this traverse has found, so two runs may
hold values that differ in what they show. Such a value is a row, or labelled, or the traverse
itself. Nothing can be calculated from one of these: it is no number, no angle, no bearing and no
direction, whatever it shows. So where two calculations are given the same values, or such values in
the same places, they come to the same, or both fail, and over the same kind of thing.

`Akin` says this of two results and goes through a chain of steps; `Value.Kin` says of two values
that a calculation cannot tell them apart.

Main statement: `Curve.akin_endOnSphere`.
-/

set_option autoImplicit false

namespace MetesBounds

/-! ## Results that are akin -/

/-- Two results stand in a relation, or both are errors, of one family. -/
inductive Akin {α β : Type} (R : α → β → Prop) : Except Error α → Except Error β → Prop
  | ok {a : α} {b : β} (h : R a b) : Akin R (.ok a) (.ok b)
  | error {err err' : Error} (h : err.family = err'.family) : Akin R (.error err) (.error err')

namespace Akin

variable {α β γ δ : Type} {R : α → β → Prop} {S : γ → δ → Prop}

theorem refl (x : Except Error α) : Akin Eq x x := by
  cases x with
  | ok a => exact .ok rfl
  | error err => exact .error rfl

theorem of_ok {a : α} {y : Except Error β} (h : Akin R (.ok a) y) : ∃ b, y = .ok b ∧ R a b := by
  cases h with
  | ok h => exact ⟨_, rfl, h⟩

theorem of_error {err : Error} {y : Except Error β} (h : Akin R (.error err) y) :
    ∃ err', y = .error err' ∧ err.family = err'.family := by
  cases h with
  | error h => exact ⟨_, rfl, h⟩

theorem error_or_ok {x : Except Error α} {y : Except Error β} (h : Akin R x y) :
    (∃ err err', x = .error err ∧ y = .error err' ∧ err.family = err'.family) ∨
      ∃ a b, x = .ok a ∧ y = .ok b ∧ R a b := by
  cases h with
  | ok h => exact .inr ⟨_, _, rfl, rfl, h⟩
  | error h => exact .inl ⟨_, _, rfl, rfl, h⟩

theorem mono {R' : α → β → Prop} {x : Except Error α} {y : Except Error β} (h : Akin R x y)
    (hR : ∀ a b, R a b → R' a b) : Akin R' x y := by
  cases h with
  | ok h => exact .ok (hR _ _ h)
  | error h => exact .error h

theorem swap {x : Except Error α} {y : Except Error β} (h : Akin R x y) :
    Akin (fun b a => R a b) y x := by
  cases h with
  | ok h => exact .ok h
  | error h => exact .error h.symm

theorem bind {x : Except Error α} {y : Except Error β} {f : α → Except Error γ}
    {g : β → Except Error δ} (h : Akin R x y) (hf : ∀ a b, R a b → Akin S (f a) (g b)) :
    Akin S (x >>= f) (y >>= g) := by
  cases h with
  | ok h => exact hf _ _ h
  | error h => exact .error h

/-- A value that both calculations go on with. -/
theorem bindEq {x y : Except Error α} {f g : α → Except Error γ} (h : Akin Eq x y)
    (hf : ∀ a, Akin Eq (f a) (g a)) : Akin Eq (x >>= f) (y >>= g) :=
  h.bind fun a _ hab => hab ▸ hf a

theorem map {x : Except Error α} {y : Except Error β} {f : α → γ} {g : β → δ} (h : Akin R x y)
    (hf : ∀ a b, R a b → S (f a) (g b)) : Akin S (f <$> x) (g <$> y) := by
  cases h with
  | ok h => exact .ok (hf _ _ h)
  | error h => exact .error h

theorem ite {x y : Except Error α} {x' y' : Except Error β} {p : Prop} [Decidable p]
    (h : Akin R x x') (h' : Akin R y y') :
    Akin R (if p then x else y) (if p then x' else y') := by
  split
  · exact h
  · exact h'

/-- Steps taken for related things, one after the other, come to related results. -/
theorem mapM {f : α → Except Error γ} {g : β → Except Error δ}
    (hfg : ∀ a b, R a b → Akin S (f a) (g b)) {as : List α} {bs : List β}
    (h : List.Forall₂ R as bs) : Akin (List.Forall₂ S) (as.mapM f) (bs.mapM g) := by
  induction h with
  | nil =>
    rw [List.mapM_nil, List.mapM_nil]
    exact .ok .nil
  | cons hab _ ih =>
    rw [List.mapM_cons, List.mapM_cons]
    exact (hfg _ _ hab).bind fun _ _ hcd => ih.bind fun _ _ hrest => .ok (.cons hcd hrest)

end Akin

/-! ## Compound values -/

namespace Value

/-- A row, labelled values, or a traverse as it is shown, if it can be. -/
def IsCompound : Value → Prop
  | row _ | labelled _ | running none => True
  | running (some shown) => ∃ rest, shown = "TraverseContext(" ++ rest
  | _ => False

/-- What compound values begin with when they are written out. -/
def openings : List String := ["(", "\x7b", "TraverseContext("]

theorem IsCompound.plain {v : Value} (h : v.IsCompound) (hlong : v.isOverlong = false) :
    ∃ start ∈ openings, ∃ rest, v.plain = start ++ rest := by
  cases v with
  | row items =>
    refine ⟨"(", by decide, ?_⟩
    rw [Value.plain, shown]
    · split
      · exact ⟨")", rfl⟩
      · exact ⟨_, String.append_assoc⟩
      · exact ⟨_, String.append_assoc⟩
    all_goals exact fun _ h => nomatch h
  | labelled entries =>
    refine ⟨"\x7b", by decide, ?_⟩
    rw [Value.plain, shown]
    · exact ⟨_, String.append_assoc⟩
    all_goals exact fun _ h => nomatch h
  | running traverse =>
    cases traverse with
    | none => cases hlong
    | some shown =>
      obtain ⟨rest, rfl⟩ := h
      refine ⟨"TraverseContext(", by decide, rest, ?_⟩
      rw [Value.plain, Value.shown, Option.getD_some]
      all_goals exact fun _ h => nomatch h
  | _ => cases h

end Value

/-! ## What is no number and no word -/

/-- White space is not taken from within what neither begins nor ends with it. -/
theorem Text.trimBoth_append {p : Char → Bool} {front : List Char} (ht : Tight p front)
    (hne : front ≠ []) (cs : List Char) : ∃ ds, trimBoth p (front ++ cs) = front ++ ds := by
  have hfront : (front ++ cs).dropWhile p = front ++ cs := by
    refine dropWhile_eq_self_iff.mpr fun c hc => ht.first c ?_
    cases front with
    | nil => exact absurd rfl hne
    | cons a front => exact hc
  have hback : front.reverse.dropWhile p = front.reverse :=
    dropWhile_eq_self_iff.mpr fun c hc => ht.last c (by rw [← List.head?_reverse]; exact hc)
  rw [trimBoth, hfront, List.reverse_append, List.dropWhile_append]
  split
  · exact ⟨[], by rw [hback, List.reverse_reverse, List.append_nil]⟩
  · exact ⟨_, by rw [List.reverse_append, List.reverse_reverse]⟩

theorem Dms.readThen_of_not_digit {β : Type} (finish : List Char → Option β) {c : Char}
    (hc : Text.isDigit c = false) (cs : List Char) : readThen finish (c :: cs) = none := by
  have hrun : (c :: cs).takeWhile Text.isDigit = [] :=
    List.takeWhile_cons_of_neg (by rw [hc]; exact Bool.false_ne_true)
  have hruns : longRuns (c :: cs) = [] := by
    rw [longRuns, hrun]
    rfl
  rw [readThen, hruns]
  rfl

/-- A character that is white space to none of the readers, and neither a digit, a sign nor a pole. -/
structure IsOpener (c : Char) : Prop where
  space : ¬(c == ' ') = true
  blank : Text.isBlank c = false
  digit : Text.isDigit c = false
  sign : c ≠ '+' ∧ c ≠ '-'
  pole : Bearing.poleOf? c = none

namespace Opening

variable {start : String} (hs : start ∈ Value.openings) (rest : String)

include hs

theorem toList_eq : ∃ c cs, (start ++ rest).toList = c :: cs ∧ IsOpener c := by
  simp only [Value.openings, List.mem_cons, List.not_mem_nil, or_false] at hs
  rw [String.toList_append]
  rcases hs with rfl | rfl | rfl <;>
    exact ⟨_, _, rfl, by decide, by decide, by decide, by decide, rfl⟩

/-- No spaces are in front. -/
theorem dropSpaces_eq : Dms.dropSpaces (start ++ rest).toList = (start ++ rest).toList := by
  obtain ⟨c, cs, heq, hc⟩ := toList_eq hs rest
  rw [heq, Dms.dropSpaces]
  exact List.dropWhile_cons_of_neg hc.space

theorem readDms_eq : Dms.read (start ++ rest).toList = none := by
  obtain ⟨c, cs, heq, hc⟩ := toList_eq hs rest
  rw [Dms.read, dropSpaces_eq hs, heq, Dms.readThen_of_not_digit _ hc.digit]
  rfl

theorem readBearing_eq : Bearing.read (start ++ rest).toList = none := by
  have hspaces := dropSpaces_eq hs rest
  obtain ⟨c, cs, heq, hc⟩ := toList_eq hs rest
  have hfront : Bearing.splitPole (c :: cs) = (none, c :: cs) := by
    rw [Bearing.splitPole, hc.pole]
  rw [heq] at hspaces ⊢
  rw [Bearing.read, hspaces]
  rw [hfront, hspaces, Dms.readThen_of_not_digit _ hc.digit]
  rfl

theorem isAzimuth_eq : isAzimuth (start ++ rest).toList = false := by
  obtain ⟨c, cs, heq, hc⟩ := toList_eq hs rest
  rw [heq, isAzimuth]
  simp [hc.blank, hc.digit, hc.sign]

/-- A word is no such text, if it is none in capitals. -/
theorem isWord_trim (word : String)
    (hw : ∀ start ∈ Value.openings, ¬start.toList.map Text.capital <+: word.toList) :
    Text.isWord word (Text.trim (start ++ rest)) = false := by
  have ht : Text.Tight Text.isBlank start.toList ∧ start.toList ≠ [] := by
    have hs := hs
    simp only [Value.openings, List.mem_cons, List.not_mem_nil, or_false] at hs
    rcases hs with rfl | rfl | rfl <;>
      exact ⟨⟨fun c hc => by cases hc; decide, fun c hc => by cases hc; decide⟩, by decide⟩
  obtain ⟨ds, htrim⟩ := Text.trimBoth_append ht.1 ht.2 rest.toList
  refine beq_eq_false_iff_ne.mpr fun h => hw start hs ?_
  rw [Text.trim, String.toList_ofList, String.toList_append, htrim, List.map_append] at h
  exact ⟨_, h⟩

end Opening

/-! ## What calculations make of compound values -/

namespace Value.IsCompound

variable {v : Value} (h : v.IsCompound)

include h

theorem read_eq {α : Type} (k : Reckoning α) : k.read v = .error (.notReal v.kindName) := by
  cases v with
  | number => cases h
  | text => cases h
  | _ => rfl

/-- What comes of the text of a compound value: the text of one that can be written begins with an
opening, whatever else is in it. -/
theorem plainText_bind {α : Type} {f : String → Except Error α} {e : Error}
    (hf : ∀ start ∈ openings, ∀ rest, v.plain = start ++ rest → f (start ++ rest) = .error e) :
    v.plainText >>= f = .error (if v.isOverlong then .overlong else e) := by
  cases hlong : v.isOverlong with
  | true =>
    rw [plainText, hlong]
    rfl
  | false =>
    obtain ⟨start, hs, rest, heq⟩ := h.plain hlong
    rw [plainText, hlong, heq]
    exact hf start hs rest heq

theorem directionOfValue_eq :
    directionOfValue v = .error (if v.isOverlong then .overlong else .badDirection v.shown) := by
  refine h.plainText_bind fun start hs rest _ => ?_
  simp only [Opening.isWord_trim hs rest "TRUE" (by decide),
    Opening.isWord_trim hs rest "FALSE" (by decide), Bool.false_eq_true, if_false]

theorem angleOfValue_eq {α : Type} (k : Reckoning α) :
    angleOfValue k v = .error (if v.isOverlong then .overlong else .badAngle v.shown) := by
  refine h.plainText_bind fun start hs rest _ => ?_
  rw [Opening.readDms_eq hs]

theorem bearingOfValue_eq {α : Type} (k : Reckoning α) : bearingOfValue k v =
    .error (if v.isOverlong then .overlong else .badBearing (Text.quoted v.plain)) := by
  have htext : bearingOfValue k v = v.plainText >>= bearingOfText k := by
    cases v with
    | number => cases h
    | _ => rfl
  rw [htext]
  refine h.plainText_bind fun start hs rest heq => ?_
  rw [heq, bearingOfText, Opening.isAzimuth_eq hs, Opening.readBearing_eq hs]
  rfl

theorem isOpen_eq (marks : List String) : Curve.isOpen marks v = false := by
  cases v with
  | nothing => cases h
  | text => cases h
  | _ => rfl

end Value.IsCompound

/-! ## Values that a calculation cannot tell apart -/

/-- Two values are the same, or both compound and both too long to be written or neither. -/
def Value.Kin (v w : Value) : Prop :=
  v = w ∨ v.IsCompound ∧ w.IsCompound ∧ v.isOverlong = w.isOverlong

namespace Value.Kin

variable {α : Type} {v w : Value}

theorem refl (v : Value) : v.Kin v := .inl rfl

theorem isOverlong_eq (h : v.Kin w) : v.isOverlong = w.isOverlong := by
  rcases h with rfl | ⟨-, -, hlong⟩
  · rfl
  · exact hlong

/-- What fails over compound values, and always over the same kind of thing, unless they are too
long. -/
theorem akin {f : Value → Except Error α} (h : v.Kin w) (family : Bool → Family)
    (hf : ∀ v, v.IsCompound → ∃ err, f v = .error err ∧ err.family = family v.isOverlong) :
    Akin Eq (f v) (f w) := by
  rcases h with rfl | ⟨hv, hw, hlong⟩
  · exact .refl _
  · obtain ⟨err, herr, hfamily⟩ := hf v hv
    obtain ⟨err', herr', hfamily'⟩ := hf w hw
    rw [herr, herr']
    exact .error (hfamily.trans (hlong ▸ hfamily'.symm))

/-- What fails over the length of values that are too long. -/
theorem akin_of_overlong {f : Value → Except Error α} {e : Value → Error} {family : Family}
    (h : v.Kin w)
    (hf : ∀ v, v.IsCompound → f v = .error (if v.isOverlong then .overlong else e v))
    (he : ∀ v, (e v).family = family) : Akin Eq (f v) (f w) :=
  h.akin (fun long => if long then .value else family) fun v hc =>
    ⟨_, hf v hc, by split <;> [rfl; exact he v]⟩

theorem read (h : v.Kin w) (k : Reckoning α) : Akin Eq (k.read v) (k.read w) :=
  h.akin (fun _ => .type) fun _ hc => ⟨_, hc.read_eq k, rfl⟩

theorem direction (h : v.Kin w) : Akin Eq (directionOfValue v) (directionOfValue w) :=
  h.akin_of_overlong (fun _ hc => hc.directionOfValue_eq) fun _ => rfl

theorem angle (h : v.Kin w) (k : Reckoning α) : Akin Eq (angleOfValue k v) (angleOfValue k w) :=
  h.akin_of_overlong (fun _ hc => hc.angleOfValue_eq k) fun _ => rfl

theorem bearing (h : v.Kin w) (k : Reckoning α) :
    Akin Eq (bearingOfValue k v) (bearingOfValue k w) :=
  h.akin_of_overlong (fun _ hc => hc.bearingOfValue_eq k) fun _ => rfl

theorem opposite (h : v.Kin w) (k : Reckoning α) :
    Akin Eq (oppositeOfValue k v) (oppositeOfValue k w) :=
  (h.bearing k).bindEq fun _ => .refl _

theorem metres (h : v.Kin w) (l : UnitLibrary) (unit : Value) :
    Akin Eq (l.metresOfValue unit v) (l.metresOfValue unit w) :=
  (h.read .double).bindEq fun _ => .refl _

theorem isOpen_eq (h : v.Kin w) (marks : List String) :
    Curve.isOpen marks v = Curve.isOpen marks w := by
  rcases h with rfl | ⟨hv, hw, -⟩
  · rfl
  · rw [hv.isOpen_eq, hw.isOpen_eq]

end Value.Kin

/-! ## Curves -/

/-- Memos that make a label, or both do not. -/
theorem Call.akin_labelWith {k : Kind} {v w : Value}
    (h : (labelWith k v).isOk = (labelWith k w).isOk) :
    Akin (fun _ _ => True) (labelWith k v) (labelWith k w) := by
  have hfails : ∀ v : Value, (labelWith k v).isOk = false →
      ∃ err, labelWith k v = .error err ∧ err.family = .type := by
    intro v hv
    cases v with
    | text => cases hv
    | _ => exact ⟨_, rfl, rfl⟩
  cases hv : (labelWith k v).isOk with
  | true =>
    obtain ⟨_, hv'⟩ := exists_eq_ok hv
    obtain ⟨_, hw'⟩ := exists_eq_ok (h ▸ hv)
    rw [hv', hw']
    exact .ok trivial
  | false =>
    obtain ⟨_, hv', hfamily⟩ := hfails v hv
    obtain ⟨_, hw', hfamily'⟩ := hfails w (h ▸ hv)
    rw [hv', hw']
    exact .error (hfamily.trans hfamily'.symm)

/-- Two curve calls that a calculation cannot tell apart. -/
structure CurveCall.Kin (c c' : CurveCall) : Prop where
  distance : c.distance.Kin c'.distance
  direction : c.direction.Kin c'.direction
  radius : c.radius.Kin c'.radius
  delta : c.delta.Kin c'.delta
  turn : c.turn.Kin c'.turn
  memo : (Call.labelWith .curve c.memo).isOk = (Call.labelWith .curve c'.memo).isOk

namespace Curve

variable {c c' : CurveCall}

/-- A compound value is read as an angle, as a text is. -/
theorem deltaOf_of_isCompound (h : c.delta.IsCompound) :
    deltaOf .double c = angleOfValue .double c.delta := by
  obtain ⟨_, _, _, delta, _, _⟩ := c
  rw [deltaOf, h.isOpen_eq, if_neg Bool.false_ne_true]
  cases delta with
  | number => cases h
  | _ => rfl

theorem akin_deltaOf (h : c.Kin c') : Akin Eq (deltaOf .double c) (deltaOf .double c') := by
  rcases h.delta with heq | ⟨hd, hd', -⟩
  · rw [deltaOf, deltaOf, heq]
    refine .ite ?_ (.refl _)
    exact (h.radius.read _).bindEq fun _ => .ite (.refl _)
      ((h.distance.read _).bindEq fun _ => .refl _)
  · rw [deltaOf_of_isCompound hd, deltaOf_of_isCompound hd']
    exact h.delta.angle _

theorem akin_turnOf (h : c.Kin c') (clockwise : Bool) (usual : Value) :
    Akin Eq (turnOf .double c clockwise usual) (turnOf .double c' clockwise usual) := by
  rw [turnOf, turnOf, h.turn.isOpen_eq]
  exact .ite (.refl _) ((h.turn.read _).bindEq fun _ => .refl _)

/-- **Curve calls that a calculation cannot tell apart end at the same point**, or fail over the same
kind of thing. Only what is logged of them may differ. -/
theorem akin_endOnSphere (h : c.Kin c') (i : Instruments) (radius unit usual : Value)
    (previous start : Option Point) :
    Akin Eq (Prod.fst <$> endOnSphere i radius unit usual previous start c)
      (Prod.fst <$> endOnSphere i radius unit usual previous start c') := by
  have hcurve : Akin Eq (onSphere i radius unit usual previous start c)
      (onSphere i radius unit usual previous start c') := by
    unfold onSphere resolve
    split
    · exact h.direction.direction.bindEq fun clockwise => (akin_deltaOf h).bindEq fun _ =>
        (akin_turnOf h clockwise usual).bindEq fun _ =>
          (h.radius.metres i.units unit).bindEq fun _ => .refl _
    · exact (Call.akin_labelWith h.memo).bind fun _ _ _ => .error rfl
  have hend : Akin (fun p q : Point × Line => p.1 = q.1)
      (endOnSphere i radius unit usual previous start c)
      (endOnSphere i radius unit usual previous start c') :=
    hcurve.bind fun _ _ heq => (Call.akin_labelWith h.memo).bind fun _ _ _ =>
      .ok (congrArg Curve.finish heq)
  exact hend.map fun _ _ heq => heq

end Curve

end MetesBounds
