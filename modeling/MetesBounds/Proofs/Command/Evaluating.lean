import MetesBounds.Command
import MetesBounds.Evaluation.Run
import MetesBounds.Proofs.Evaluation.Acting
import MetesBounds.Proofs.Evaluation.Step

/-!
# `Command/Evaluating` — an evaluation fails as the command expects, or over a large number

The command is prepared for some kinds of error. What calculations fail with is carried through
procedures, references, calls and steps to a whole run: whatever the items are and whatever state
they are evaluated on, the run ends in an error of a kind that the command tells, in a whole number
that is too large for a double, or in what is wrong with the radius of its sphere. It finds no fault
with a unit, which has been found acceptable before.

Main statement: `Evaluator.Prepared.evaluate`.
-/

set_option autoImplicit false

namespace MetesBounds

/-! ## Errors -/

/-- The kinds of error that only reading a unit ends in: an expression that cannot be read, a name
that no unit has, a dimension that is another one. -/
def Family.ofUnits : Family → Bool
  | unit | unitText | dimension | assertion | tokens => true
  | _ => false

namespace Error

/-- Whether an error finds fault with a unit. -/
def ofUnits (err : Error) : Bool :=
  err.family.ofUnits ||
    match err with
    | scaledUnit | scaledDimension | noFactor _ | noQuantity | noMagnitude | magnitude _
    | notAUnit _ | notAnExponent _ | undefinedDimension _ | unsupportedUnit .. => true
    | _ => false

/-- Whether an error finds fault with what an evaluation is configured to measure by: with a unit,
or with the radius of the sphere because it is not positive. -/
def ofMeasures : Error → Bool
  | sphereRadius _ | earthRadius _ => true
  | err => err.ofUnits

/-- The errors that an evaluation may be expected to end in: those that the command tells, and the
one of a number that is too large. None of them is about what it measures by. -/
def Foreseen (err : Error) : Prop :=
  err.ofMeasures = false ∧ (Command.isEvaluationError err.family = true ∨ err = .tooLarge)

/-- What is foreseen, and what the radius of the sphere may be refused with. -/
def ForeseenOn (l : SphereLibrary) (radius : Value) (err : Error) : Prop :=
  Foreseen err ∨ l.ofRadius radius = .error err

theorem OfReckoning.foreseen {err : Error} (h : err.OfReckoning) : err.Foreseen := by
  unfold OfReckoning at h
  split at h
  · exact ⟨rfl, .inr rfl⟩
  all_goals first | exact ⟨rfl, .inl rfl⟩ | exact h.elim

/-- In a unit that can be measured only the radius of the sphere may be refused. -/
theorem Arises.foreseenOn {i : Instruments} {radius unit : Value} {err : Error}
    (h : err.Arises i radius unit) (hu : i.units.Measures unit) :
    err.ForeseenOn i.spheres radius := by
  cases h with
  | reckoning h => exact .inl h.foreseen
  | curve shown => exact .inl ⟨rfl, .inl rfl⟩
  | sphere h => exact .inr h
  | unit h =>
    obtain ⟨y, hy⟩ := hu _
    cases hy.symm.trans h

end Error

open Error (Foreseen ForeseenOn)

theorem FailsIn.foreseen {α : Type} {x : Except Error α} (h : FailsIn Error.OfReckoning x) :
    FailsIn Foreseen x := h.mono fun _ => Error.OfReckoning.foreseen

/-- What is foreseen anywhere is foreseen on a sphere. -/
theorem FailsIn.on {α : Type} {x : Except Error α} (h : FailsIn Foreseen x) (l : SphereLibrary)
    (radius : Value) : FailsIn (ForeseenOn l radius) x := h.mono fun _ => .inl

theorem Error.foreseen_overlong : Foreseen .overlong := ⟨rfl, .inl rfl⟩

theorem Value.foreseen_written (v : Value) : FailsIn Foreseen v.written :=
  .ite (.error Error.foreseen_overlong) (.ok _)

/-! ## Procedures -/

namespace Registry

theorem foreseen_find (r : Registry) (name : Value) : FailsIn Foreseen (r.find name) := by
  unfold find
  split
  · split
    · exact .ok _
    · exact .error ⟨rfl, .inl rfl⟩
  · split
    · exact .error ⟨rfl, .inl rfl⟩
    · exact .error
        (name.blamedPlain_of (p := Foreseen) Error.foreseen_overlong fun _ => ⟨rfl, .inl rfl⟩)

theorem foreseen_notListed (e : Entry) (kind : String) : Foreseen (notListed e kind) := by
  unfold notListed
  split
  · exact ⟨rfl, .inl rfl⟩
  · split <;> exact ⟨rfl, .inl rfl⟩

theorem foreseen_arguments (name : String) (e : Entry) (args : Value) :
    FailsIn Foreseen (arguments name e args) := by
  unfold arguments
  split
  · exact .error (foreseen_notListed _ _)
  · split
    · exact .ok _
    · dsimp only
      split
      · exact .error ⟨rfl, .inl rfl⟩
      · exact .ok _

/-- A standard procedure is run with what it asks for; the two that work on the traverse are handed
it, and do not fail. -/
theorem foreseen_run {units : UnitLibrary} (hu : units.Measures (.text "foot")) {s : String}
    {e : Entry} (h : (standard units).get? s = some e) (items : List Value) (t : Traverse) :
    FailsIn Foreseen (run e items t).1 := by
  have hmem : (s, e) ∈ (standard units).entries.entries := Table.mem_of_find? h
  simp only [standard, List.mem_cons, Prod.mk.injEq, List.not_mem_nil, or_false] at hmem
  -- one case for each procedure, in the order in which they are listed
  rcases hmem with ⟨-, rfl⟩ | ⟨-, rfl⟩ | ⟨-, rfl⟩ | ⟨-, rfl⟩ | ⟨-, rfl⟩ | ⟨-, rfl⟩
  · exact (reckons_bearingOfValue _).map.foreseen
  · exact (reckons_oppositeOfValue _).map.foreseen
  · exact (reckons_turned _ _).map.foreseen
  · exact (hu.reckons_metresOfValue _).map.foreseen
  · exact .ok _
  · exact .ok _

theorem foreseen_call {units : UnitLibrary} (hu : units.Measures (.text "foot"))
    (name args : Value) (t : Traverse) :
    FailsIn Foreseen ((standard units).call name args t).1 := by
  cases hf : (standard units).find name with
  | error err =>
    rw [call, hf]
    exact .error (foreseen_find _ _ err hf)
  | ok found =>
    obtain ⟨s, e⟩ := found
    cases ha : arguments s e args with
    | error err =>
      rw [call, hf]
      simp only [ha]
      exact .error (foreseen_arguments _ _ _ err ha)
    | ok items =>
      rw [call_eq_run hf ha]
      exact foreseen_run hu (find_eq_ok hf).2 items t

end Registry

/-! ## References -/

theorem Value.foreseen_startsAmong (s : String) (starts : List Value) :
    FailsIn Foreseen (startsAmong s starts) := by
  fun_induction startsAmong s starts with
  | case1 => exact .ok _
  | case2 => exact .ok _
  | case3 _ _ _ ih => exact ih
  | case4 => exact .error ⟨rfl, .inl rfl⟩

theorem Value.foreseen_markedName? (marker : Value) (s : String) :
    FailsIn Foreseen (markedName? marker s) := by
  unfold markedName?
  split
  · exact .ok _
  · exact (foreseen_startsAmong _ _).map
  · exact .ite (.ok _) (.error ⟨rfl, .inl rfl⟩)

theorem Value.foreseen_marked (v marker : Value) : FailsIn Foreseen (v.marked marker) := by
  unfold marked
  split
  · refine (foreseen_markedName? _ _).bind fun name? => ?_
    cases name? <;> exact .ok _
  · exact .ok _

namespace Traverse

theorem foreseen_lookup (t : Traverse) (name : String) : FailsIn Foreseen (t.lookup name) := by
  unfold lookup
  split
  · exact .ok _
  · exact .error ⟨rfl, .inl rfl⟩

theorem foreseen_resolve (t : Traverse) (v : Value) : FailsIn Foreseen (t.resolve v) := by
  refine (v.foreseen_marked t.marker).bind fun w => ?_
  split
  · exact t.foreseen_lookup _
  · exact .ok _

theorem foreseen_resolveField (t : Traverse) (f : Field) (v : Value) :
    FailsIn Foreseen (t.resolveField f v) := by
  unfold resolveField
  split
  · exact (FailsIn.mapM t.foreseen_resolve _).map
  · exact .ite (.ok _) (t.foreseen_resolve v)

end Traverse

/-- Working on the fields of a call fails over a field. -/
theorem FailsIn.mapFields {p : Error → Prop} {f : Field → Value → Except Error Value}
    (hf : ∀ field v, FailsIn p (f field v)) (c : Call) : FailsIn p (c.mapFields f) := by
  cases c with
  | point c => exact (hf _ _).bind fun _ => (hf _ _).bind fun _ => (hf _ _).map
  | line c =>
    exact (hf _ _).bind fun _ => (hf _ _).bind fun _ => (hf _ _).bind fun _ => (hf _ _).map
  | curve c =>
    exact (hf _ _).bind fun _ => (hf _ _).bind fun _ => (hf _ _).bind fun _ =>
      (hf _ _).bind fun _ => (hf _ _).bind fun _ => (hf _ _).map
  | procedure c => exact (hf _ _).bind fun _ => (hf _ _).bind fun _ => (hf _ _).map
  | binding c => exact (hf _ _).bind fun _ => (hf _ _).map

/-! ## Calls, steps and runs -/

namespace Evaluator

variable {e : Evaluator}

/-- An evaluator with the standard procedures and with a unit that can be measured, as feet can. -/
structure Prepared (e : Evaluator) : Prop where
  unit : e.units.Measures e.settings.distanceUnit
  foot : e.units.Measures (.text "foot")
  procedures : e.procedures = .standard e.units

namespace Prepared

theorem lineEnd (h : e.Prepared) (t : Traverse) (c : LineCall) :
    FailsIn (ForeseenOn e.spheres e.radius) (e.lineEnd t c) := by
  cases hc : t.current with
  | none =>
    rw [Evaluator.lineEnd, hc]
    exact .on ((Call.reckons_labelWith _ _).foreseen.bind fun _ => .error ⟨rfl, .inl rfl⟩) _ _
  | some origin => exact (arises_lineEnd hc c).mono fun _ herr => herr.foreseenOn h.unit

theorem curveEnd (h : e.Prepared) (t : Traverse) (c : CurveCall) :
    FailsIn (ForeseenOn e.spheres e.radius) (e.curveEnd t c) := by
  unfold Evaluator.curveEnd
  by_cases hmissing : t.previous = none ∨ t.current = none
  · rw [Curve.endOnSphere_of_missing hmissing]
    exact .on ((Call.reckons_labelWith _ _).foreseen.bind fun _ => .error ⟨rfl, .inl rfl⟩) _ _
  · obtain ⟨hprevious, hcurrent⟩ := not_or.mp hmissing
    obtain ⟨p, hp⟩ := Option.ne_none_iff_exists'.mp hprevious
    obtain ⟨q, hq⟩ := Option.ne_none_iff_exists'.mp hcurrent
    rw [hp, hq]
    exact (Curve.arises_endOnSphere _ p q c).mono fun _ herr => herr.foreseenOn h.unit

theorem bindLast (t : Traverse) (c : BindingCall) : FailsIn Foreseen (bindLast t c).result := by
  unfold Evaluator.bindLast Symbol.ofValue
  split
  · exact .ok _
  · next err hs =>
    split at hs
    · cases hs
    · split at hs <;> cases hs
      exact .error ⟨rfl, .inl rfl⟩

theorem act (h : e.Prepared) (t : Traverse) (c : Call) :
    FailsIn (ForeseenOn e.spheres e.radius) (e.act t c).result := by
  cases c with
  | point c => exact fun err he => .inl ((reckons_pointOf c).foreseen err (of_map_eq_error he))
  | line c => exact fun err he => h.lineEnd t c err (of_map_eq_error he)
  | curve c =>
    simp only [Evaluator.act]
    split
    · exact .ok _
    · next err hc => exact .error (h.curveEnd t c err hc)
  | procedure c =>
    simp only [Evaluator.act, h.procedures]
    exact (Registry.foreseen_call h.foot _ _ _).on _ _
  | binding c => exact (bindLast t c).on _ _

theorem perform (h : e.Prepared) (t : Traverse) (c : Call) :
    FailsIn (ForeseenOn e.spheres e.radius) (e.perform t c).result := by
  unfold Evaluator.perform
  split
  · exact (bindLast t _).on _ _
  · split
    · exact h.act t _
    · next err hs => exact .error (.inl (FailsIn.mapFields t.foreseen_resolveField c err hs))

theorem settle (t : Traverse) (c : Call) (index : Int) (v : Value) :
    FailsIn Foreseen (settle t c index v).1 := by
  have hs := settled t c index v
  generalize Evaluator.settle t c index v = r at hs
  cases hs with
  | unlabelled c hc p hv err hl => exact .error ((Call.reckons_labelWith _ _).foreseen err hl)
  | _ => exact .ok _

theorem complete (h : e.Prepared) (t : Traverse) (c : Call) (index : Int) :
    FailsIn (ForeseenOn e.spheres e.radius) (e.complete t c index).result := by
  have hp := h.perform t c
  unfold Evaluator.complete
  dsimp only
  split
  · next err ho => exact .error (hp err ho)
  · next v ho =>
    have hs := settle (e.perform t c).traverse c index v
    split
    · exact .ok _
    · next err u hsettle =>
      rw [hsettle] at hs
      exact .error (.inl (hs err rfl))

theorem note (e : Evaluator) (level : Level) (message : String) :
    FailsIn Foreseen (e.note level message) := by
  refine FailsIn.map ?_
  unfold Settings.reports
  split
  · exact .ok _
  · exact .error ⟨rfl, .inl rfl⟩

theorem announce (e : Evaluator) (c : Call) (index : Int) :
    FailsIn Foreseen (e.announce c index) :=
  .bind (.ite (.error Error.foreseen_overlong) (.ok _)) fun _ => note e _ _

theorem step (h : e.Prepared) (t : Traverse) (item : Item) (index : Int) :
    FailsIn (ForeseenOn e.spheres e.radius) (e.step t item index).result := by
  cases item with
  | other v =>
    exact .error (.inl
      (v.blamed_of (p := Foreseen) Error.foreseen_overlong fun _ => ⟨rfl, .inl rfl⟩))
  | call c =>
    unfold Evaluator.step
    dsimp only
    split
    · next err hn => exact .error (.inl (announce e c index err hn))
    · exact h.complete t c index

theorem auditedStep (h : e.Prepared) (t : Traverse) (trail : Option Trail) (item : Item)
    (index : Int) :
    FailsIn (ForeseenOn e.spheres e.radius) (e.auditedStep t trail item index).outcome.result := by
  have hs := h.step t item index
  unfold Evaluator.auditedStep
  dsimp only
  split
  · next err ho => exact .error (hs err ho)
  · split
    · split
      · next err hl => exact .error (.inl ((Call.reckons_labelWith _ _).foreseen err hl))
      · split
        · next err hv => exact .error (.inl (Value.foreseen_written _ err hv))
        · exact .ok _
    · exact .ok _

theorem finish (e : Evaluator) (t : Traverse) (count : Nat) :
    FailsIn Foreseen (e.finish t count).result := by
  unfold Evaluator.finish
  dsimp only
  split
  · exact .ok _
  · next err hn => exact .error (note e _ _ err hn)

/-- A run of items, from any state and with or without a trail, fails as its steps do. -/
theorem runFrom (h : e.Prepared) (items : List Item) (count : Nat) (t : Traverse)
    (trail : Option Trail) :
    FailsIn (ForeseenOn e.spheres e.radius) (e.runFrom count t trail items).outcome.result := by
  induction items generalizing count t trail with
  | nil => exact (finish e t count).on _ _
  | cons item rest ih =>
    have hs := h.auditedStep t trail item count
    unfold Evaluator.runFrom
    dsimp only
    split
    · next err ho => exact .error (hs err ho)
    · exact ih _ _ _

/-- **An evaluation fails as the command expects it to, over a number that is too large, or over
the radius of its sphere.** -/
theorem evaluate (h : e.Prepared) (t : Traverse) (items : List Item) :
    FailsIn (ForeseenOn e.spheres e.radius) (e.evaluate t items).result :=
  fun err he => h.runFrom items 0 t none err (of_map_eq_error he)

/-- With a trail it may also fail over settings that cannot be written. -/
theorem evaluateAudited (h : e.Prepared) (t : Traverse) (trail : Trail) (id : String)
    (items : List Item) :
    FailsIn (ForeseenOn e.spheres e.radius) (e.evaluateAudited t trail id items).1.result := by
  have hhash : FailsIn Foreseen (Trail.configHashOf e.settings.toValue) :=
    .ite (.ok _) (.ite (.error Error.foreseen_overlong) (.ok _))
  unfold Evaluator.evaluateAudited
  split
  · next err he => exact .error (.inl (hhash err he))
  · next hash _ =>
    exact fun err he => h.runFrom items 0 t (some (trail.enter id hash).1) err (of_map_eq_error he)

end Prepared

end Evaluator

end MetesBounds
