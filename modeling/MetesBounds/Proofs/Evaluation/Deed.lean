import MetesBounds.Proofs.Evaluation.Run
import MetesBounds.Proofs.Traverse.Update

/-!
# `Evaluation/Deed` — what a step does, told apart from the traverse that it is done to

What a step does is decided by what a traverse remembers: what its names stand for and the two
positions it has come by. The points found so far and the position of the item have no say in it. So
a step is told here as a `Deed`, which can be done to any traverse. Two traverses that remember the
same meet the same deed from the same item (`Evaluator.exists_does`), and every fact about two runs
side by side comes from doing one list of deeds to both.

Main statement: `Evaluator.exists_does`.
-/

set_option autoImplicit false

namespace MetesBounds

/-- What a step does to a traverse. -/
inductive Deed where
  /-- It fails and changes nothing. -/
  | refuse (err : Error)
  /-- It finds a point that the call has no label for. -/
  | drop (p : Point) (err : Error)
  /-- It names the last result. -/
  | bind (s : Symbol)
  /-- It calculates a double. -/
  | reckon (x : Float)
  /-- It adds a point to the result. -/
  | place (p : Point) (label : String)
  /-- It empties the result. -/
  | clear
  /-- It forgets everything. -/
  | reset

namespace Deed

/-- The traverse after a deed of the step at a position. -/
def apply (index : Int) (t : Traverse) : Deed → Traverse
  | refuse _ => t
  | drop p _ => { t with lastResult := .point p }
  | bind s => t.bind s t.lastResult
  | reckon x => { t with lastResult := .ofFloat x }
  | place p label => { t with lastResult := .point p }.advance p label index
  | clear => { t.clearPoints with lastResult := .nothing }
  | reset => t.reset

/-- What a deed ends in: an error, or whether it adds a point to the result. -/
def result : Deed → Except Error Bool
  | refuse err | drop _ err => .error err
  | place .. => .ok true
  | bind _ | reckon _ | clear | reset => .ok false

/-- Whether a deed empties the result. -/
def empties : Deed → Bool
  | clear | reset => true
  | _ => false

/-- What fails has emptied nothing. -/
theorem empties_of_error {d : Deed} {err : Error} (h : d.result = .error err) :
    d.empties = false := by
  cases d with
  | refuse => rfl
  | drop => rfl
  | _ => cases h

/-- No deed changes the marker. -/
theorem marker_apply (d : Deed) (index : Int) (t : Traverse) :
    (d.apply index t).marker = t.marker := by
  cases d <;> rfl

/-- What comes of a binding call, by the value that it binds under. -/
def ofBinding (name : Value) : Deed :=
  match Symbol.ofValue name with
  | .ok s => bind s
  | .error err => refuse err

/-- What comes of a call that leads to a point, or fails to. -/
def ofFound (c : Call) : Except Error Point → Deed
  | .error err => refuse err
  | .ok p =>
    match c.label with
    | .ok label => place p label
    | .error err => drop p err

/-- What comes of a call of a standard procedure. -/
def ofCalled (name : Value) : Except Error Value → Deed
  | .error err => refuse err
  | .ok (.number (.real x)) => reckon x
  | .ok _ =>
    match name with
    | .text s => if s = Registry.resetName then reset else clear
    | _ => clear

end Deed

/-- An item comes to a call of a procedure that empties the result. -/
def Traverse.AsksToEmpty (t : Traverse) (item : Item) : Prop :=
  ∃ a, t.asked? item = some a ∧
    (a.name = .text Registry.clearName ∨ a.name = .text Registry.resetName)

namespace Evaluator

variable {e : Evaluator} {t u : Traverse}

/-- The step for an item does a deed to a traverse. -/
structure Does (e : Evaluator) (t : Traverse) (item : Item) (index : Int) (d : Deed) : Prop where
  traverse : (e.step t item index).traverse = d.apply index t
  result : (e.step t item index).result.map Step.producedPoint = d.result
  /-- Only a binding call binds. -/
  binds : ∀ s, d = .bind s → ∃ b, item = .call (.binding b)
  /-- What is asked to empty the result does so unless it fails. -/
  empties : d.empties = true ↔ t.AsksToEmpty item ∧ ∃ b, d.result = .ok b

namespace Does

variable {item : Item} {index : Int} {d : Deed}

theorem of_error (h : e.Does t item index d) {err : Error} (hd : d.result = .error err) :
    (e.step t item index).result = .error err := by
  have hres := h.result
  rw [hd] at hres
  cases hs : (e.step t item index).result with
  | error err' => rw [hs] at hres; cases hres; rfl
  | ok s => rw [hs] at hres; cases hres

theorem of_ok (h : e.Does t item index d) {b : Bool} (hd : d.result = .ok b) :
    ∃ s, (e.step t item index).result = .ok s ∧ s.producedPoint = b := by
  have hres := h.result
  rw [hd] at hres
  cases hs : (e.step t item index).result with
  | error err => rw [hs] at hres; cases hres
  | ok s => rw [hs] at hres; cases hres; exact ⟨s, rfl, rfl⟩

end Does

/-- A step that fails and changes nothing. -/
theorem does_refuse {item : Item} {index : Int} {err : Error}
    (herr : (e.step t item index).result = .error err)
    (ht : (e.step t item index).traverse = t) : e.Does t item index (.refuse err) where
  traverse := ht
  result := by rw [herr]; rfl
  binds s hs := by cases hs
  empties := by simp [Deed.empties, Deed.result]

/-! ## Completing a call -/

theorem complete_of_error {c : Call} {err : Error} (h : (e.perform t c).result = .error err)
    (index : Int) : (e.complete t c index).result = .error err ∧
      (e.complete t c index).traverse = (e.perform t c).traverse := by
  simp only [complete, h, and_self]

theorem complete_of_ok {c : Call} {v : Value} (h : (e.perform t c).result = .ok v) (index : Int) :
    (e.complete t c index).result.map Step.producedPoint =
        (settle (e.perform t c).traverse c index v).1 ∧
      (e.complete t c index).traverse = (settle (e.perform t c).traverse c index v).2 := by
  simp only [complete, h]
  split <;> next hs => rw [hs]; exact ⟨rfl, rfl⟩

/-- A call that cannot be performed refuses. -/
theorem does_of_error {c : Call} (hl : e.Announces c) {err : Error}
    (h : (e.perform t c).result = .error err) (ht : (e.perform t c).traverse = t) (index : Int) :
    e.Does t (.call c) index (.refuse err) := by
  obtain ⟨hres, htrav⟩ := step_of_announces hl t index
  obtain ⟨hres', htrav'⟩ := complete_of_error h index
  exact does_refuse (hres.trans hres') (htrav.trans (htrav'.trans ht))

/-- A call that is performed does what taking in its result does. -/
theorem does_of_ok {c : Call} (hl : e.Announces c) {v : Value} {d : Deed} {index : Int}
    (h : (e.perform t c).result = .ok v)
    (hs : settle (e.perform t c).traverse c index v = (d.result, d.apply index t))
    (hb : ∀ s, d = .bind s → ∃ b, c = .binding b)
    (he : d.empties = true ↔ t.AsksToEmpty (.call c) ∧ ∃ b, d.result = .ok b) :
    e.Does t (.call c) index d := by
  obtain ⟨hres, htrav⟩ := step_of_announces hl t index
  obtain ⟨hres', htrav'⟩ := complete_of_ok h index
  rw [hs] at hres' htrav'
  refine ⟨htrav.trans htrav', by rw [hres, hres'], fun s hd => ?_, he⟩
  obtain ⟨b, rfl⟩ := hb s hd
  exact ⟨b, rfl⟩

/-- A call that leads to a point, or fails to, asks for nothing to be emptied. -/
theorem not_asksToEmpty_of_locates {c : Call} (hc : c.locates = true) :
    ¬t.AsksToEmpty (.call c) := by
  rintro ⟨a, ha, -⟩
  rw [Traverse.locates_of_asked? ha] at hc
  cases hc

theorem does_ofFound {c : Call} (hl : e.Announces c) (hc : c.locates = true)
    {r : Except Error Point} (hres : (e.perform t c).result = .point <$> r)
    (ht : (e.perform t c).traverse = t)
    (index : Int) : e.Does t (.call c) index (.ofFound c r) := by
  cases r with
  | error err => exact does_of_error hl hres ht index
  | ok p =>
    rw [Deed.ofFound]
    have hset := settle_of_ne_binding (t := t) (Call.ne_binding_of_locates hc) index (.point p)
    cases hlabel : c.label with
    | ok label =>
      rw [hlabel] at hset
      refine does_of_ok hl hres (by rw [ht, hset]; rfl) (fun s hs => by cases hs) ?_
      simp [Deed.empties, not_asksToEmpty_of_locates hc]
    | error err =>
      rw [hlabel] at hset
      refine does_of_ok hl hres (by rw [ht, hset]; rfl) (fun s hs => by cases hs) ?_
      simp [Deed.empties, not_asksToEmpty_of_locates hc]

theorem does_ofCalled {c : Call} (hl : e.Announces c) {a : ProcedureCall}
    (ha : t.asked? (.call c) = some a) {called : Except Error Value × Traverse}
    (hcall : Registry.StandardCall a.name t called) (hres : (e.perform t c).result = called.1)
    (ht : (e.perform t c).traverse = called.2) (index : Int) :
    e.Does t (.call c) index (.ofCalled a.name called.1) := by
  have hset (u : Traverse) {v : Value} (hv : ∀ p, v ≠ .point p) :
      settle u c index v = (.ok false, { u with lastResult := v }) := by
    refine (settled u c index v).of_not_point (Traverse.ne_binding_of_asked? ha) hv
  have hasks : t.AsksToEmpty (.call c) ↔
      a.name = .text Registry.clearName ∨ a.name = .text Registry.resetName := by
    simp [Traverse.AsksToEmpty, ha]
  cases hcall with
  | failed err => exact does_of_error hl hres ht index
  | reckoned x hc hr =>
    refine does_of_ok hl hres (by rw [ht, hset _ fun p h => by cases h]; rfl)
      (fun s hs => by cases hs) ?_
    simp [Deed.ofCalled, Deed.empties, hasks, hc, hr]
  | cleared hn =>
    have hd : Deed.ofCalled a.name (.ok .nothing) = .clear := by rw [hn]; rfl
    rw [hd]
    refine does_of_ok hl hres (by rw [ht, hset _ fun p h => by cases h]; rfl)
      (fun s hs => by cases hs) ?_
    simp [Deed.empties, Deed.result, hasks, hn]
  | reset hn =>
    have hd : Deed.ofCalled a.name (.ok .nothing) = .reset := by rw [hn]; rfl
    rw [hd]
    refine does_of_ok hl hres (by rw [ht, hset _ fun p h => by cases h]; rfl)
      (fun s hs => by cases hs) ?_
    simp [Deed.empties, Deed.result, hasks, hn]

/-! ## One step, done to two traverses -/

/-- Where a binding call is completed, the last result gets a name. -/
theorem does_binding {c : BindingCall} (hl : e.Announces (.binding c)) (t : Traverse) (index : Int) :
    e.Does t (.call (.binding c)) index (.ofBinding c.name) := by
  rw [Deed.ofBinding]
  cases hs : Symbol.ofValue c.name with
  | error err =>
    refine does_of_error hl ?_ ?_ index
    · simp only [perform, bindLast, hs, Outcome.failed]
    · simp only [perform, bindLast, hs, Outcome.failed]
  | ok s =>
    refine does_of_ok hl (v := t.lastResult) ?_ ?_ (fun _ _ => ⟨c, rfl⟩) ?_
    · simp only [perform, bindLast, hs]
    · simp only [perform, bindLast, hs, settle, Deed.result, Deed.apply]
    · have hask : ¬t.AsksToEmpty (.call (.binding c)) := by
        rintro ⟨a, ha, -⟩
        cases Traverse.kind_of_asked? ha
      simp [Deed.empties, hask]

theorem does_of_unresolved {c : Call} (hl : e.Announces c) (hk : c.kind ≠ .binding) {err : Error}
    (hs : t.substitute c = .error err) (index : Int) : e.Does t (.call c) index (.refuse err) := by
  have hperf : e.perform t c = .failed t err := by rw [perform_of_ne_binding hk, hs]
  exact does_of_error hl (by rw [hperf]; rfl) (by rw [hperf]; rfl) index

theorem does_of_act {c c' : Call} (hl : e.Announces c) (hs : t.substitute c = .ok c')
    (hc : c'.locates = true) {r : Except Error Point} {log : List Line}
    (ha : e.act t c' = ⟨.point <$> r, t, log⟩) (index : Int) :
    e.Does t (.call c) index (.ofFound c r) := by
  have hkind : c'.kind = c.kind := Call.mapFields_kind hs
  have hloc : c.locates = true := by rw [Call.locates, ← hkind]; exact hc
  have hperf : e.perform t c = ⟨.point <$> r, t, log⟩ := by
    rw [perform_of_ne_binding (Call.ne_binding_of_locates hloc), hs]
    exact ha
  exact does_ofFound hl hloc (by rw [hperf]) (by rw [hperf]) index

theorem act_curve (t : Traverse) (c : CurveCall) : ∃ log,
    e.act t (.curve c) = ⟨.point <$> (Prod.fst <$> e.curveEnd t c), t, log⟩ := by
  simp only [act]
  cases e.curveEnd t c with
  | ok found => exact ⟨[found.2], rfl⟩
  | error err => exact ⟨[], rfl⟩

theorem does_of_asked (hr : e.procedures = .standard e.units) {c : Call} (hl : e.Announces c)
    {a : ProcedureCall} (hs : t.substitute c = .ok (.procedure a)) (index : Int) :
    e.Does t (.call c) index
      (.ofCalled a.name ((Registry.standard e.units).call a.name a.args t).1) := by
  have ha : t.asked? (.call c) = some a := Traverse.asked?_eq_some.mpr hs
  have hperf : e.perform t c = e.act t (.procedure a) := by
    rw [perform_of_ne_binding (Traverse.ne_binding_of_asked? ha), hs]
  refine does_ofCalled hl ha (Registry.standard_call a.name a.args t) ?_ ?_ index
  · rw [hperf]
    simp only [act, hr]
  · rw [hperf]
    simp only [act, hr]

/-- A call whose references stand for the same in two traverses does the same to both: no kind of
call looks further than at the positions. -/
theorem exists_does_of_substituted (hr : e.procedures = .standard e.units) {c c' : Call}
    (hl : e.Announces c) (hk : c.kind ≠ .binding) (ht : t.substitute c = .ok c')
    (hu : u.substitute c = .ok c')
    (hp : t.previous = u.previous) (hc : t.current = u.current) (i j : Int) :
    ∃ d : Deed, e.Does t (.call c) i d ∧ e.Does u (.call c) j d := by
  cases c' with
  | point c' => exact ⟨_, does_of_act hl ht rfl rfl i, does_of_act hl hu rfl rfl j⟩
  | line c' =>
    have hline : e.lineEnd u c' = e.lineEnd t c' := by rw [lineEnd, lineEnd, hc]
    refine ⟨_, does_of_act hl ht rfl rfl i, ?_⟩
    rw [← hline]
    exact does_of_act hl hu rfl rfl j
  | curve c' =>
    have hcurve : e.curveEnd u c' = e.curveEnd t c' := by rw [curveEnd, curveEnd, hp, hc]
    obtain ⟨_, hact⟩ := act_curve (e := e) t c'
    obtain ⟨_, hact'⟩ := act_curve (e := e) u c'
    refine ⟨_, does_of_act hl ht rfl hact i, ?_⟩
    rw [← hcurve]
    exact does_of_act hl hu rfl hact' j
  | procedure a =>
    refine ⟨_, does_of_asked hr hl ht i, ?_⟩
    rw [Registry.standard_call_uniform a.name a.args t u]
    exact does_of_asked hr hl hu j
  | binding c' => exact absurd (Call.mapFields_kind ht).symm hk

/-- **Traverses that remember the same meet the same deed**: where the references of an item stand
for the same and the two positions are the same, its step does the same to both. -/
theorem exists_does (hr : e.procedures = .standard e.units) {item : Item}
    (hs : ∀ c, item = .call c → t.substitute c = u.substitute c) (hp : t.previous = u.previous)
    (hc : t.current = u.current) (i j : Int) :
    ∃ d : Deed, e.Does t item i d ∧ e.Does u item j d := by
  cases item with
  | other v => exact ⟨_, does_refuse rfl rfl, does_refuse rfl rfl⟩
  | call c =>
    by_cases hl : e.Announces c
    · by_cases hk : c.kind = .binding
      · cases c with
        | binding c => exact ⟨_, does_binding hl t i, does_binding hl u j⟩
        | _ => cases hk
      · have hu : u.substitute c = t.substitute c := (hs c rfl).symm
        cases ht : t.substitute c with
        | error err =>
          rw [ht] at hu
          exact ⟨_, does_of_unresolved hl hk ht i, does_of_unresolved hl hk hu j⟩
        | ok c' =>
          rw [ht] at hu
          exact exists_does_of_substituted hr hl hk ht hu hp hc i j
    · obtain ⟨err, herr⟩ := step_of_not_announces hl
      refine ⟨.refuse err, does_refuse ?_ ?_, does_refuse ?_ ?_⟩ <;> rw [herr _ c _ rfl] <;> rfl

/-- One traverse meets one deed. -/
theorem exists_does_self (hr : e.procedures = .standard e.units) (t : Traverse) (item : Item)
    (index : Int) : ∃ d : Deed, e.Does t item index d := by
  obtain ⟨d, hd, -⟩ := exists_does hr (fun c (_ : item = .call c) => rfl) rfl rfl index index
  exact ⟨d, hd⟩

/-- **What every deed preserves an evaluation preserves.** -/
theorem evaluate_preserves (hr : e.procedures = .standard e.units) {P : Traverse → Prop}
    (hd : ∀ t (d : Deed) index, P t → P (d.apply index t)) (ht : P t) (items : List Item) :
    P (e.evaluate t items).traverse := by
  refine runFrom_preserves (fun t item index ht => ?_) items 0 ht none
  obtain ⟨d, hdoes⟩ := exists_does_self hr t item index
  rw [hdoes.traverse]
  exact hd t d index ht

end Evaluator

end MetesBounds
