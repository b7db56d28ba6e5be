import MetesBounds.Instruments.Known
import MetesBounds.Proofs.Instruments

/-!
# `Calculation/Measures` — what the known libraries are relied on for

From the characters of an expression to a distance in metres: cutting into tokens, putting them
together, reckoning with products of powers, following definitions down to the bases. All of it only
calculates, and so do great circles reckoned with doubles. And a unit is read from its expression
alone, and converted by one multiplication with a number that is its own.

Main statements: `Instruments.foreign_known` and `UnitLibrary.uniform_known`.
-/

set_option autoImplicit false

namespace MetesBounds

/-! ## Products of powers -/

namespace Powers

theorem calculates_onto {op : Number → Number → Except Error Number}
    (hop : ∀ a b, Calculates (op a b)) (p : Powers) (f : String × Number) :
    Calculates (onto op p f) := (hop _ _).map

theorem calculates_times (p q : Powers) : Calculates (p.times q) :=
  (Calculates.foldlM (calculates_onto (Number.calculates_combine _ _)) q p).map

theorem calculates_quotient (p q : Powers) : Calculates (p.quotient q) :=
  (Calculates.foldlM (calculates_onto (Number.calculates_combine _ _)) q p).map

theorem calculates_raised (p : Powers) (n : Number) : Calculates (p.raised n) :=
  .mapM (fun _ => (Number.calculates_combine _ _ _ _).map) p

end Powers

namespace Product

theorem calculates_times (p q : Product) : Calculates (p.times q) :=
  (Powers.calculates_times _ _).bind fun _ => (Scalar.calculates_product _ _).map

theorem calculates_quotient (p q : Product) : Calculates (p.quotient q) :=
  (Powers.calculates_quotient _ _).bind fun _ => (Scalar.calculates_quotient _ _).map

theorem calculates_power (p : Product) (n : Scalar) : Calculates (p.power n) := by
  cases n with
  | real n =>
    exact (Powers.calculates_raised _ _).bind fun _ => (Scalar.calculates_power _ _).map
  | complex z => exact (Scalar.calculates_power _ _).bind fun _ => .ite (.ok _) (.error rfl)

end Product

namespace Amount

theorem calculates_times (a b : Amount) : Calculates (a.times b) := by
  cases a <;> cases b
  · exact (Scalar.calculates_product _ _).map
  · exact (Scalar.calculates_product _ _).map
  · exact (Scalar.calculates_product _ _).map
  · exact (Product.calculates_times _ _).map

theorem calculates_quotient (a b : Amount) : Calculates (a.quotient b) := by
  cases a <;> cases b
  · exact (Scalar.calculates_quotient _ _).map
  · exact (Product.calculates_power _ _).bind fun _ => (Scalar.calculates_product _ _).map
  · exact (Scalar.calculates_quotient _ _).map
  · exact (Product.calculates_quotient _ _).map

theorem calculates_power (a b : Amount) : Calculates (a.power b) := by
  cases a <;> cases b
  · exact (Scalar.calculates_power _ _).map
  · exact .error rfl
  · exact (Product.calculates_power _ _).map
  · exact .error rfl

theorem calculates_onPlain {op : Scalar → Scalar → Except Error Scalar}
    (hop : ∀ a b, Calculates (op a b)) (s : Sign) (a b : Amount) :
    Calculates (onPlain s op a b) := by
  cases a <;> cases b
  · exact (hop _ _).map
  all_goals exact .error rfl

theorem calculates_floorQuotient (a b : Amount) : Calculates (a.floorQuotient b) := by
  cases a with
  | plain m => exact calculates_onPlain Scalar.calculates_floorQuotient _ _ _
  | product p => exact calculates_quotient _ _

theorem calculates_operation (s : Option Sign) (a b : Amount) : Calculates (operation s a b) := by
  unfold operation
  split
  · exact calculates_times a b
  · exact calculates_times a b
  · exact calculates_quotient a b
  · exact calculates_power a b
  · exact calculates_floorQuotient a b
  · exact calculates_onPlain Scalar.calculates_remainder _ a b
  · exact calculates_onPlain Scalar.calculates_sum _ a b
  · exact calculates_onPlain Scalar.calculates_difference _ a b

end Amount

/-! ## Expressions -/

theorem Token.calculates_readFrom (p : Place) (cs : List Char) : Calculates (readFrom p cs) := by
  fun_induction readFrom p cs with
  | case1 => exact .ok _
  | case2 => exact .error rfl
  | case3 p c rest length next taken after hp ih => exact ih
  | case4 p c rest length next taken after hp ih => exact ih.map
  | case5 p c rest length next taken after hp ih => exact ih.map
  | case6 p c rest length next taken after s hp ih => exact ih.map
  | case7 p c rest length next taken after hp ih => exact ih.map
  | case8 p c rest length next taken after hp here ih => exact ih.map
  | case9 p c rest length next taken after opens hp ih => exact ih
  | case10 => exact .error rfl

theorem Token.calculates_ofText (s : String) : Calculates (ofText s) := by
  unfold ofText
  split
  · exact .error rfl
  · exact calculates_readFrom _ _

namespace Expression

theorem calculates_given (left : Option Expression) : Calculates (given left) := by
  cases left with
  | some e => exact .ok e
  | none => exact .error rfl

theorem calculates_readFrom (fuel : Nat) (before : Before) (left : Option Expression)
    (ts : List Token) : Calculates (readFrom fuel before left ts) := by
  induction fuel generalizing before left ts with
  | zero => exact .error rfl
  | succ fuel ih =>
    unfold readFrom
    split
    · exact .error rfl
    · exact (calculates_given _).map
    · exact .error rfl
    · exact (calculates_given _).map
    · exact (ih _ _ _).bind fun _ => ih _ _ _
    · exact .ite (.ok _) ((ih _ _ _).bind fun _ => ih _ _ _)
    · exact (ih _ _ _).bind fun _ => ih _ _ _
    · exact .ite (.ok _) ((ih _ _ _).bind fun _ => ih _ _ _)
    · exact .ite (.ok _) ((ih _ _ _).bind fun _ => ih _ _ _)
    · exact ih _ _ _
    · exact ih _ _ _

theorem calculates_ofText (s : String) : Calculates (ofText s) :=
  (Token.calculates_ofText s).bind fun ts => (calculates_readFrom _ _ _ ts).map

theorem calculates_numberOfText (text : String) : Calculates (numberOfText text) := by
  refine .ite (.ok _) ?_
  split
  · exact .ok _
  · exact .error rfl

theorem calculates_evaluate {α : Type} {ofNumber : Number → α} {ofName : String → Except Error α}
    {operation : Option Sign → α → α → Except Error α} (hn : ∀ s, Calculates (ofName s))
    (ho : ∀ s a b, Calculates (operation s a b)) (e : Expression) :
    Calculates (e.evaluate ofNumber ofName operation) := by
  induction e with
  | number text => exact (calculates_numberOfText text).map
  | name text => exact hn text
  | signed s e ih =>
    cases s with
    | plus => exact ih
    | minus => exact ih.bind fun _ => ho _ _ _
    | _ => exact .error rfl
  | operation s left right hl hr => exact hl.bind fun _ => hr.bind fun _ => ho _ _ _

end Expression

namespace Product

theorem calculates_ofPlain (s : String) : Calculates (ofPlain s) := by
  refine (Expression.calculates_ofText s).bind fun e => ?_
  refine (Expression.calculates_evaluate (fun _ => .ok _) Amount.calculates_operation e).bind ?_
  intro a
  cases a <;> exact .ok _

theorem calculates_ofText (s : String) : Calculates (ofText s) :=
  .ite (.ok _) (.ite (calculates_ofPlain _).map (calculates_ofPlain _).map)

end Product

/-! ## Units and their dimensions -/

theorem NamedUnit.calculates_find (name : String) : Calculates (find name) := by
  unfold find
  split
  · exact .ok _
  · exact .error rfl

namespace Dimension

theorem calculates_definition? (name : String) : Calculates (definition? name) := by
  refine .ite (.ite (.ok _) ?_) (.ite (.error rfl) ((NamedUnit.calculates_find name).bind ?_))
  · split
    · exact .ok _
    · exact .error rfl
  · intro u
    split <;> exact .ok _

theorem calculates_follow (steps : Nat) (n : Number) (factors done : Powers) :
    Calculates (follow steps n factors done) := by
  induction steps generalizing n factors done with
  | zero => exact .ok _
  | succ steps ih =>
    refine .foldlM (fun done f => ?_) factors done
    refine (Number.calculates_combine _ _ _ _).bind fun n => (calculates_definition? _).bind ?_
    intro d
    cases d with
    | none => exact Powers.calculates_onto (Number.calculates_combine _ _) _ _
    | some factors => exact ih _ _ _

theorem calculates_ofPowers (p : Powers) : Calculates (ofPowers p) :=
  (calculates_follow _ _ _ _).map

end Dimension

namespace Measure

theorem calculates_times (u : Measure) (name : String) (n : Number) :
    Calculates (u.times name n) :=
  (Number.calculates_combine _ _ _ _).bind fun _ => .ite (.ok _) (.ite (.ok _) (.error rfl))

theorem calculates_timesNamed (u : Measure) (f : String × Number) :
    Calculates (u.timesNamed f) :=
  .ite (.ok _) ((NamedUnit.calculates_find _).bind fun _ => calculates_times _ _ _)

theorem calculates_read (expression : String) : Calculates (read expression) :=
  (Product.calculates_ofText _).bind fun _ =>
    .ite (.foldlM calculates_timesNamed _ _) (.error rfl)

theorem calculates_ofValue (v : Value) : Calculates (ofValue v) := by
  cases v with
  | text expression => exact calculates_read expression
  | nothing => exact .ok _
  | _ => exact .error rfl

theorem calculates_follow (steps : Nat) (n : Number) (factors done : Powers) :
    Calculates (follow steps n factors done) := by
  induction steps generalizing n factors done with
  | zero => exact .ok _
  | succ steps ih =>
    refine .foldlM (fun done f => ?_) factors done
    refine (Number.calculates_combine _ _ _ _).bind fun n => (NamedUnit.calculates_find _).bind ?_
    rintro ⟨name, standard⟩
    refine (Powers.calculates_onto (Number.calculates_combine _ _) _ _).bind fun done => ?_
    cases standard with
    | base dimension => exact .ok _
    | multiple scale factors => exact ih _ _ _

theorem calculates_multiplied (size : Number) (f : String × Number) :
    Calculates (multiplied size f) := by
  refine (NamedUnit.calculates_find _).bind fun u => ?_
  split
  · exact .ok _
  · refine (Number.calculates_power _ _).bind fun s => ?_
    cases s with
    | some s => exact Number.calculates_combine _ _ _ _
    | none => exact .ok _

theorem calculates_size (factors : Powers) : Calculates (size factors) :=
  (calculates_follow _ _ _ _).bind fun _ => .foldlM calculates_multiplied _ _

theorem calculates_inMetres (u : Measure) : Calculates u.inMetres :=
  (Powers.calculates_quotient _ _).bind fun _ => (calculates_size _).bind fun n =>
    n.calculates_toFloat

end Measure

theorem Sphere.calculates_radiusOfNumber (n : Number) : Calculates (radiusOfNumber n) := by
  unfold radiusOfNumber
  split
  · exact .ite (.ok _) (.ite (.error rfl) (.ite (.error rfl) (.ok _)))
  · exact Number.calculates_toFloat _

/-- **The known libraries only calculate.** -/
theorem Instruments.foreign_known : known.Foreign where
  units := {
    unit := fun _ v => Measure.calculates_ofValue v
    dimension := fun _ => Dimension.calculates_ofPowers _
    inMetres := fun _ u => u.calculates_inMetres.map }
  greatCircles n := (Sphere.calculates_radiusOfNumber n).map

namespace UnitLibrary

/-- **The known units do not depend on the number that is stated in them.** -/
theorem uniform_known : known.Uniform where
  unit _ _ _ _ h := h
  inMetres x y u z h := by
    obtain ⟨size, hsize, -⟩ := bind_eq_ok.mp h
    refine ⟨y * size, ?_⟩
    change u.inMetres >>= _ = _
    rw [hsize]
    rfl

/-- A number of a unit of length is multiplied by what one of the unit is in metres. -/
theorem metres_known {unit : Value} {size : Float}
    (h : (do let u ← Measure.ofValue unit; known.checkDimension u Dimension.length; u.inMetres) =
      .ok size) (x : Float) : known.metres x unit = .ok (x * size) := by
  obtain ⟨u, hu, h⟩ := bind_eq_ok.mp h
  obtain ⟨_, hdimension, hsize⟩ := bind_eq_ok.mp h
  have hunit : known.unit x unit = .ok u := hu
  have hconverted : known.inMetres x u = .ok (x * size) := by
    change u.inMetres >>= _ = _
    rw [hsize]
    rfl
  rw [metres, hunit]
  simp only [bind_ok, hdimension, hconverted]

/-- A meter is one meter. -/
theorem metres_meter_eq (x : Float) : known.metres x (.text "meter") = .ok (x * 1.0) := by
  refine metres_known (eq_ok_of_toOption ?_) x
  -- the search for a character in a text is evaluated as one in its list
  simp only [Measure.ofValue, Measure.read, Product.ofText, String.contains_char_eq]
  decide +kernel

/-- A foot is a third of a yard of 0.9144 meters, and that product of doubles is just below 0.3048. -/
theorem metres_foot_eq (x : Float) :
    known.metres x (.text "foot") = .ok (x * 0.30479999999999996) := by
  refine metres_known (eq_ok_of_toOption ?_) x
  simp only [Measure.ofValue, Measure.read, Product.ofText, String.contains_char_eq]
  decide +kernel

end UnitLibrary

end MetesBounds
