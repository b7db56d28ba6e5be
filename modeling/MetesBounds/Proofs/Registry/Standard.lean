import MetesBounds.Proofs.Calculation.Directions
import MetesBounds.Registry.Standard

/-!
# `Registry/Standard` — what the standard procedures leave behind

A standard procedure either reckons, and then it gives a double and leaves the traverse alone; or
it works on the traverse, and then it gives nothing and cannot fail. So a failure never leaves
anything behind.

Main statements: `Registry.standard_call` (all that a call of a standard procedure can come to) and
`Registry.standard_call_eq_error` (what one can fail with).
-/

set_option autoImplicit false

namespace MetesBounds

/-- What a call of a procedure fails with where the procedure only calculates: the name may be
unknown and the arguments may not fit. -/
def Family.ofCalling : Family → Bool
  | procedure | arguments => true
  | f => f.ofCalculation

/-- A procedure that gives the double of a function of its arguments and leaves the traverse
alone. -/
def Procedure.Reckons (p : Procedure) (f : List Value → Except Error Float) : Prop :=
  ∀ items t, p.run items t = (do return .ofFloat (← f items), t)

theorem Procedure.Reckons.ofValues (names : List String) (f : List Value → Except Error Float) :
    (Procedure.ofValues names fun args => do return .ofFloat (← f args)).Reckons f :=
  fun _ _ => rfl

/-- What is found under a key is among the entries. -/
theorem Table.mem_of_find? {κ α : Type} [DecidableEq κ] {k : κ} {a : α} {es : List (κ × α)}
    (h : find? k es = some a) : (k, a) ∈ es := by
  induction es with
  | nil => cases h
  | cons e rest ih =>
    rw [find?] at h
    split at h
    · next he => cases h; exact List.mem_cons.mpr (.inl (by rw [← he]))
    · exact List.mem_cons_of_mem _ (ih h)

namespace Registry

theorem reckons_turned (bearing degrees : Value) :
    FailsIn Error.OfReckoning (turned bearing degrees) :=
  bearing.reckons_toFloat.bind fun _ => degrees.reckons_toFloat.map

variable {units : UnitLibrary}

/-- What is found under a name in the standard registry. -/
theorem standard_get? {s : String} {e : Entry} (h : (standard units).get? s = some e) :
    (∃ f, e.procedure.Reckons f ∧ (units.Foreign → ∀ args, Calculates (f args)) ∧
        e.needsTraverse = false ∧ s ≠ clearName ∧ s ≠ resetName) ∨
      (s = clearName ∧ e = ⟨clearDestinationPoints, true⟩) ∨
      (s = resetName ∧ e = ⟨resetState, true⟩) := by
  have hmem : (s, e) ∈ (standard units).entries.entries := Table.mem_of_find? h
  rcases List.mem_cons.mp hmem with hs | hmem
  · cases hs
    exact .inl ⟨_, .ofValues _ _, fun _ _ => (reckons_bearingOfValue _).calculates, rfl, by decide,
      by decide⟩
  rcases List.mem_cons.mp hmem with hs | hmem
  · cases hs
    exact .inl ⟨_, .ofValues _ _, fun _ _ => (reckons_oppositeOfValue _).calculates, rfl, by decide,
      by decide⟩
  rcases List.mem_cons.mp hmem with hs | hmem
  · cases hs
    exact .inl ⟨_, .ofValues _ _, fun _ _ => (reckons_turned _ _).calculates, rfl, by decide,
      by decide⟩
  rcases List.mem_cons.mp hmem with hs | hmem
  · cases hs
    exact .inl ⟨_, .ofValues _ _, fun hu _ => hu.calculates_metresOfValue _ _, rfl, by decide,
      by decide⟩
  rcases List.mem_cons.mp hmem with hs | hmem
  · cases hs
    exact .inr (.inl ⟨rfl, rfl⟩)
  · cases List.mem_singleton.mp hmem
    exact .inr (.inr ⟨rfl, rfl⟩)

/-- What a call of a standard procedure comes to. -/
inductive StandardCall (name : Value) (t : Traverse) : Except Error Value × Traverse → Prop
  | failed (err : Error) : StandardCall name t (.error err, t)
  | reckoned (x : Float) (hc : name ≠ .text clearName) (hr : name ≠ .text resetName) :
    StandardCall name t (.ok (.ofFloat x), t)
  | cleared (h : name = .text clearName) : StandardCall name t (.ok .nothing, t.clearPoints)
  | reset (h : name = .text resetName) : StandardCall name t (.ok .nothing, t.reset)

/-- Only a text finds a procedure, and it finds the one under exactly it. -/
theorem find_eq_ok {r : Registry} {name : Value} {s : String} {e : Entry}
    (h : r.find name = .ok (s, e)) : name = .text s ∧ r.get? s = some e := by
  cases name with
  | text s' =>
    simp only [find] at h
    cases hg : r.get? s' with
    | none => rw [hg] at h; cases h
    | some e' => rw [hg] at h; cases h; exact ⟨rfl, hg⟩
  | _ =>
    simp only [find] at h
    split at h <;> cases h

/-- What is found fails over the name alone. -/
theorem find_eq_error {r : Registry} {name : Value} {err : Error} (h : r.find name = .error err) :
    err.family.ofCalling = true := by
  unfold find at h
  split at h
  · split at h <;> cases h
    rfl
  · split at h <;> cases h
    · rfl
    · exact name.blamedPlain_of (p := fun err => err.family.ofCalling = true) rfl fun _ => rfl

/-- What is made of arguments fails over them alone. -/
theorem arguments_eq_error {s : String} {e : Entry} {args : Value} {err : Error}
    (h : arguments s e args = .error err) : err.family.ofCalling = true := by
  unfold arguments at h
  split at h
  · cases h
    unfold notListed
    split
    · rfl
    · split <;> rfl
  · split at h
    · cases h
    · dsimp only at h
      split at h <;> cases h
      rfl

theorem ofCalling_of_calculates {α : Type} {x : Except Error α} (hx : Calculates x) {err : Error}
    (h : x = .error err) : err.family.ofCalling = true := by
  have hc := hx err h
  unfold Family.ofCalling
  split
  · rfl
  · rfl
  · exact hc

/-- A call that gets to its procedure runs it. -/
theorem call_eq_run {r : Registry} {name args : Value} {t : Traverse} {s : String} {e : Entry}
    {items : List Value} (hf : r.find name = .ok (s, e)) (ha : arguments s e args = .ok items) :
    r.call name args t = run e items t := by
  rw [call, hf]
  simp only [ha]

/-- A call fails over the name or the arguments, or it runs what the name stands for. Which of these
it does depends on no traverse. -/
theorem call_cases (r : Registry) (name args : Value) :
    (∃ err, err.family.ofCalling = true ∧ ∀ t, r.call name args t = (.error err, t)) ∨
      ∃ s e items, name = .text s ∧ r.get? s = some e ∧ ∀ t, r.call name args t = run e items t := by
  cases hf : r.find name with
  | error err => exact .inl ⟨err, find_eq_error hf, fun t => by rw [call, hf]⟩
  | ok found =>
    obtain ⟨s, e⟩ := found
    cases ha : arguments s e args with
    | error err =>
      exact .inl ⟨err, arguments_eq_error ha, fun t => by rw [call, hf]; simp only [ha]⟩
    | ok items =>
      obtain ⟨rfl, hs⟩ := find_eq_ok hf
      exact .inr ⟨s, e, items, rfl, hs, fun t => call_eq_run hf ha⟩

theorem run_of_reckons {e : Entry} {f : List Value → Except Error Float}
    (hk : e.procedure.Reckons f) (hn : e.needsTraverse = false) (items : List Value)
    (t : Traverse) : run e items t = (do return .ofFloat (← f items), t) := by
  rw [run, hn]
  exact hk items t

/-- **All that a call of a standard procedure can come to.** -/
theorem standard_call (name args : Value) (t : Traverse) :
    StandardCall name t ((standard units).call name args t) := by
  rcases call_cases (standard units) name args with ⟨err, -, hcall⟩ | ⟨s, e, items, rfl, hs, hcall⟩
  · rw [hcall]
    exact .failed err
  · rw [hcall]
    rcases standard_get? hs with ⟨f, hk, -, hn, hc, hr⟩ | ⟨rfl, rfl⟩ | ⟨rfl, rfl⟩
    · rw [run_of_reckons hk hn]
      cases f items with
      | error err => exact .failed err
      | ok x => exact .reckoned x (fun h => hc (by cases h; rfl)) (fun h => hr (by cases h; rfl))
    · exact .cleared rfl
    · exact .reset rfl

/-- **What a call of a standard procedure gives does not depend on the traverse.** -/
theorem standard_call_uniform (name args : Value) (t u : Traverse) :
    ((standard units).call name args t).1 = ((standard units).call name args u).1 := by
  rcases call_cases (standard units) name args with ⟨err, -, hcall⟩ | ⟨s, e, items, -, hs, hcall⟩
  · rw [hcall, hcall]
  · rw [hcall, hcall]
    rcases standard_get? hs with ⟨f, hk, -, hn, -⟩ | ⟨-, rfl⟩ | ⟨-, rfl⟩
    · rw [run_of_reckons hk hn, run_of_reckons hk hn]
    -- what works on the traverse is handed it as its first argument, however it is shown
    · rfl
    · rfl

/-- **A standard procedure fails over its name, its arguments, or what it calculates with**, where
the library of units is none of a traverse. -/
theorem standard_call_eq_error (hu : units.Foreign) {name args : Value} {t : Traverse} {err : Error}
    (h : ((standard units).call name args t).1 = .error err) : err.family.ofCalling = true := by
  rcases call_cases (standard units) name args with ⟨err', herr, hcall⟩ | ⟨s, e, items, -, hs, hcall⟩
  · rw [hcall] at h
    cases h
    exact herr
  · rw [hcall] at h
    rcases standard_get? hs with ⟨f, hk, hf, hn, -⟩ | ⟨-, rfl⟩ | ⟨-, rfl⟩
    · rw [run_of_reckons hk hn] at h
      exact ofCalling_of_calculates (hf hu items).map h
    · cases h
    · cases h

end Registry

end MetesBounds
