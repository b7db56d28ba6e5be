import MetesBounds.Evaluation
import MetesBounds.Proofs.Registry.Standard
import MetesBounds.Proofs.Traverse.Substitution

/-!
# `Evaluation/Step` — all that one step can do

A step works on the traverse in two places: where the call is performed and where its result is
taken in. `Evaluator.Performed` lists what the first can come to, whatever procedures there are;
`Evaluator.Stepped` lists what a whole step can come to where they are the standard ones. Every
fact about runs is read off one of the two lists.

Main statements: `Evaluator.step_preserves` (what holds through every change that a step is made
of holds after the step), `Evaluator.stepped` (what a completed step has done) and
`Evaluator.traverse_step_of_error` (what has failed has done nothing).
-/

set_option autoImplicit false

namespace MetesBounds

/-- Whether a call leads to a point if it leads anywhere. -/
def Call.locates (c : Call) : Bool :=
  match c.kind with
  | .point | .line | .curve => true
  | .procedure | .binding => false

theorem Call.ne_binding_of_locates {c : Call} (hc : c.locates = true) : c.kind ≠ .binding := by
  intro hk
  rw [Call.locates, hk] at hc
  cases hc

/-- An item whose memo, if it is a call, is text. -/
def Item.TextMemo : Item → Prop
  | .call c => ∃ s, c.memo = .text s
  | .other _ => True

namespace Traverse

/-- The procedure call that an item comes to once its references are replaced. -/
def asked? (t : Traverse) : Item → Option ProcedureCall
  | .call c =>
    match t.substitute c with
    | .ok (.procedure c) => some c
    | _ => none
  | .other _ => none

theorem asked?_eq_some {t : Traverse} {c : Call} {a : ProcedureCall} :
    t.asked? (.call c) = some a ↔ t.substitute c = .ok (.procedure a) := by
  rw [asked?]
  split
  · next c' hc => rw [hc]; simp
  · next hc =>
    constructor
    · intro h; cases h
    · intro h; exact (hc _ h).elim

/-- Only a procedure call comes to a procedure call. -/
theorem kind_of_asked? {t : Traverse} {c : Call} {a : ProcedureCall}
    (h : t.asked? (.call c) = some a) : c.kind = .procedure :=
  (Call.mapFields_kind (asked?_eq_some.mp h)).symm

theorem ne_binding_of_asked? {t : Traverse} {c : Call} {a : ProcedureCall}
    (h : t.asked? (.call c) = some a) : c.kind ≠ .binding := by
  rw [kind_of_asked? h]
  decide

/-- A call that comes to a procedure call does not lead to a point. -/
theorem locates_of_asked? {t : Traverse} {c : Call} {a : ProcedureCall}
    (h : t.asked? (.call c) = some a) : c.locates = false := by
  rw [Call.locates, kind_of_asked? h]

end Traverse

namespace Evaluator

variable {e : Evaluator} {t : Traverse}

/-! ## Performing a call -/

/-- What performing a call can come to. -/
inductive Performed (e : Evaluator) (t : Traverse) : Call → Outcome Value → Prop
  | bound (c : BindingCall) (s : Symbol) (hs : Symbol.ofValue c.name = .ok s) :
    Performed e t (.binding c) ⟨.ok t.lastResult, t.bind s t.lastResult, []⟩
  | found (c : Call) (hc : c.locates = true) (p : Point) (log : List Line) :
    Performed e t c ⟨.ok (.point p), t, log⟩
  | asked (c : Call) (a : ProcedureCall) (ha : t.asked? (.call c) = some a) :
    Performed e t c
      ⟨(e.procedures.call a.name a.args t).1, (e.procedures.call a.name a.args t).2, []⟩
  | failed (c : Call) (err : Error) : Performed e t c (.failed t err)

theorem performed_map {c : Call} (hc : c.locates = true) :
    ∀ x : Except Error Point, Performed e t c (.ofExcept t (.point <$> x))
  | .ok p => .found c hc p []
  | .error err => .failed c err

/-- A call other than a binding call is performed once its references are replaced. -/
theorem perform_of_ne_binding {c : Call} (hc : c.kind ≠ .binding) :
    e.perform t c = match t.substitute c with
      | .ok c => e.act t c
      | .error err => .failed t err := by
  cases c with
  | binding b => exact absurd rfl hc
  | _ => rfl

/-- Performing a call comes to what its kind lists. -/
theorem performed (c : Call) : Performed e t c (e.perform t c) := by
  by_cases hc : c.kind = .binding
  · cases c with
    | binding b =>
      rw [perform, bindLast]
      cases hs : Symbol.ofValue b.name with
      | ok s => exact .bound b s hs
      | error err => exact .failed _ err
    | _ => cases hc
  · rw [perform_of_ne_binding hc]
    cases hs : t.substitute c with
    | error err => exact .failed c err
    | ok c' =>
      -- the list speaks of the call as it was given, so its kind has to outlive the substitution
      have hk : c'.kind = c.kind := Call.mapFields_kind hs
      cases c' with
      | point c' => exact performed_map (by rw [Call.locates, ← hk]; rfl) _
      | line c' => exact performed_map (by rw [Call.locates, ← hk]; rfl) _
      | curve c' =>
        dsimp only [act]
        cases e.curveEnd t c' with
        | ok found => exact .found c (by rw [Call.locates, ← hk]; rfl) found.1 [found.2]
        | error err => exact .failed c err
      | procedure a => exact .asked c a (Traverse.asked?_eq_some.mpr hs)
      | binding b => exact absurd hk.symm hc

/-! ## Taking in a result -/

/-- What taking in a result can come to: an error only where the result is a point that the call
has no label for. -/
inductive Settled (t : Traverse) (index : Int) (v : Value) : Call → Except Error Bool × Traverse →
    Prop
  | bound (b : BindingCall) : Settled t index v (.binding b) (.ok false, t)
  | kept (c : Call) (hc : c.kind ≠ .binding) (hv : ∀ p, v ≠ .point p) :
    Settled t index v c (.ok false, { t with lastResult := v })
  | placed (c : Call) (hc : c.kind ≠ .binding) (p : Point) (hv : v = .point p) (label : String)
    (hl : c.label = .ok label) :
    Settled t index v c (.ok true, { t with lastResult := v }.advance p label index)
  | unlabelled (c : Call) (hc : c.kind ≠ .binding) (p : Point) (hv : v = .point p) (err : Error)
    (hl : c.label = .error err) :
    Settled t index v c (.error err, { t with lastResult := v })

theorem settle_of_ne_binding {c : Call} (hc : c.kind ≠ .binding) (index : Int) (v : Value) :
    settle t c index v =
      match v with
      | .point p =>
        match c.label with
        | .ok label => (.ok true, { t with lastResult := v }.advance p label index)
        | .error err => (.error err, { t with lastResult := v })
      | _ => (.ok false, { t with lastResult := v }) := by
  cases c with
  | binding b => exact absurd rfl hc
  | _ => rfl

/-- Taking in a result comes to what the kind of the call and the result list. -/
theorem settled (t : Traverse) (c : Call) (index : Int) (v : Value) :
    Settled t index v c (settle t c index v) := by
  by_cases hc : c.kind = .binding
  · cases c with
    | binding b => exact .bound b
    | _ => cases hc
  · rw [settle_of_ne_binding hc]
    cases v with
    | point p =>
      cases hl : c.label with
      | ok label => exact .placed c hc p rfl label hl
      | error err => exact .unlabelled c hc p rfl err hl
    | _ => exact .kept c hc fun p h => by cases h

/-! ## The outline of a step -/

/-- How the outcome of a step is put together: nothing was tried, or performing the call failed, or
its result was taken in. -/
inductive Outlined (e : Evaluator) (t : Traverse) (index : Int) :
    Item → Except Error Step → Traverse → Prop
  | refused (item : Item) (err : Error) : Outlined e t index item (.error err) t
  | failed (c : Call) (o : Outcome Value) (hp : Performed e t c o) (err : Error)
    (ho : o.result = .error err) : Outlined e t index (.call c) (.error err) o.traverse
  | taken (c : Call) (o : Outcome Value) (hp : Performed e t c o) (v : Value)
    (ho : o.result = .ok v) (r : Except Error Bool × Traverse)
    (hr : Settled o.traverse index v c r) :
    Outlined e t index (.call c) (r.1.map fun produced => ⟨r.2.refresh v, produced⟩) r.2

theorem outlined (e : Evaluator) (t : Traverse) (item : Item) (index : Int) :
    Outlined e t index item (e.step t item index).result (e.step t item index).traverse := by
  cases item with
  | other v => exact .refused _ _
  | call c =>
    rw [step]
    split
    · exact .refused _ _
    · change Outlined e t index (.call c) (e.complete t c index).result
        (e.complete t c index).traverse
      have hp : Performed e t c (e.perform t c) := performed c
      cases ho : (e.perform t c).result with
      | error err =>
        simp only [complete, ho]
        exact .failed c _ hp err ho
      | ok v =>
        have hr := Outlined.taken c _ hp v ho _ (settled _ c index v)
        cases hs : settle (e.perform t c).traverse c index v with
        | mk r u =>
          rw [hs] at hr
          cases r <;> simp only [complete, ho, hs] <;> exact hr

/-- **What holds through every change that a step is made of holds after the step**, whatever
comes of it. The procedures that there are enter only through the one that the step asks for. -/
theorem step_preserves {P : Traverse → Prop} {item : Item} (index : Int) (ht : P t)
    (hb : ∀ s, P (t.bind s t.lastResult))
    (hc : ∀ a, t.asked? item = some a → P (e.procedures.call a.name a.args t).2)
    (hl : ∀ u v, P u → P { u with lastResult := v })
    (ha : ∀ u p label, P u → P (u.advance p label index)) :
    P (e.step t item index).traverse := by
  have performed {c : Call} {o : Outcome Value} (hp : Performed e t c o)
      (hc : ∀ a, t.asked? (.call c) = some a → P (e.procedures.call a.name a.args t).2) :
      P o.traverse := by
    cases hp with
    | bound b s hs => exact hb s
    | found => exact ht
    | asked _ a hasked => exact hc a hasked
    | failed => exact ht
  have ho := outlined e t item index
  generalize (e.step t item index).result = r, (e.step t item index).traverse = u at ho ⊢
  cases ho with
  | refused => exact ht
  | failed c o hp err ho => exact performed hp hc
  | taken c o hp v ho r hr =>
    have hu : P o.traverse := performed hp hc
    cases hr with
    | bound => exact hu
    | kept => exact hl _ _ hu
    | placed => exact ha _ _ _ (hl _ _ hu)
    | unlabelled => exact hl _ _ hu

/-! ## Steps with the standard procedures -/

/-- What a completed step can have done: the value that it gives and the state that it leaves. -/
inductive Stepped (t : Traverse) (index : Int) : Item → Value → Traverse → Prop
  | bound (c : BindingCall) (s : Symbol) (hs : Symbol.ofValue c.name = .ok s) :
    Stepped t index (.call (.binding c)) ((t.bind s t.lastResult).refresh t.lastResult)
      (t.bind s t.lastResult)
  | found (c : Call) (hc : c.locates = true) (label : String) (hl : c.label = .ok label)
    (p : Point) :
    Stepped t index (.call c) (.point p)
      ({ t with lastResult := .point p }.advance p label index)
  | reckoned (c : Call) (a : ProcedureCall) (ha : t.asked? (.call c) = some a)
    (hc : a.name ≠ .text Registry.clearName) (hr : a.name ≠ .text Registry.resetName) (x : Float) :
    Stepped t index (.call c) (.ofFloat x) { t with lastResult := .ofFloat x }
  | cleared (c : Call) (a : ProcedureCall) (ha : t.asked? (.call c) = some a)
    (hn : a.name = .text Registry.clearName) :
    Stepped t index (.call c) .nothing { t.clearPoints with lastResult := .nothing }
  | reset (c : Call) (a : ProcedureCall) (ha : t.asked? (.call c) = some a)
    (hn : a.name = .text Registry.resetName) :
    Stepped t index (.call c) .nothing t.reset

/-- A result that is no point is only made the last result. -/
theorem Settled.of_not_point {index : Int} {v : Value} {c : Call} {r : Except Error Bool × Traverse}
    (h : Settled t index v c r) (hc : c.kind ≠ .binding) (hv : ∀ p, v ≠ .point p) :
    r = (.ok false, { t with lastResult := v }) := by
  cases h with
  | bound => exact absurd rfl hc
  | kept => rfl
  | placed _ _ p hp => exact absurd hp (hv p)
  | unlabelled _ _ p hp => exact absurd hp (hv p)

/-- What a completed call of a standard procedure has done. What such a procedure gives is no point,
so it is kept without being labelled. -/
theorem stepped_of_call {c : Call} {a : ProcedureCall} {index : Int}
    {called : Except Error Value × Traverse} {v : Value} {r : Except Error Bool × Traverse} {s : Step}
    (ha : t.asked? (.call c) = some a) (hcall : Registry.StandardCall a.name t called)
    (hv : called.1 = .ok v) (hset : Settled called.2 index v c r)
    (hs : Except.ok s = r.1.map fun produced => ⟨r.2.refresh v, produced⟩) :
    Stepped t index (.call c) s.value r.2 := by
  have hk : c.kind ≠ .binding := Traverse.ne_binding_of_asked? ha
  cases hcall with
  | failed => cases hv
  | reckoned x hc hr =>
    cases hv
    obtain rfl := hset.of_not_point hk fun p h => by cases h
    cases hs
    exact .reckoned c a ha hc hr x
  | cleared hn =>
    cases hv
    obtain rfl := hset.of_not_point hk fun p h => by cases h
    cases hs
    exact .cleared c a ha hn
  | reset hn =>
    cases hv
    obtain rfl := hset.of_not_point hk fun p h => by cases h
    cases hs
    exact .reset c a ha hn

/-- **What a completed step has done.** -/
theorem stepped (hr : e.procedures = .standard e.units) {item : Item} {index : Int} {s : Step}
    (h : (e.step t item index).result = .ok s) :
    Stepped t index item s.value (e.step t item index).traverse := by
  have ho := outlined e t item index
  rw [h] at ho
  generalize (e.step t item index).traverse = u at ho ⊢
  generalize hs : (Except.ok s : Except Error Step) = result at ho
  cases ho with
  | refused => cases hs
  | failed => cases hs
  | taken c o hp v hv r hset =>
    cases hp with
    | bound b sym hsym =>
      cases hv
      cases hset with
      | bound => cases hs; exact .bound b sym hsym
      | kept _ hc => exact absurd rfl hc
      | placed _ hc => exact absurd rfl hc
      | unlabelled _ hc => exact absurd rfl hc
    | found _ hc p log =>
      cases hv
      cases hset with
      | bound => cases hc
      | kept _ _ hp => exact absurd rfl (hp p)
      | placed _ _ p' hp label hl => cases hp; cases hs; exact .found c hc label hl p
      | unlabelled => cases hs
    | failed => cases hv
    | asked _ a ha =>
      rw [hr] at hv hset
      exact stepped_of_call ha (Registry.standard_call a.name a.args t) hv hset hs

/-! ## Failed steps -/

/-- **A failed step of the standard procedures leaves the traverse as it was.** -/
theorem traverse_step_of_error (hr : e.procedures = .standard e.units) {item : Item}
    (hm : item.TextMemo) {index : Int} {err : Error} (h : (e.step t item index).result = .error err) :
    (e.step t item index).traverse = t := by
  have ho := outlined e t item index
  rw [h] at ho
  generalize (e.step t item index).traverse = u at ho ⊢
  generalize hs : (Except.error err : Except Error Step) = result at ho
  cases ho with
  | refused => rfl
  | failed c o hp err' hv =>
    cases hp with
    | bound => cases hv
    | found => cases hv
    | failed => rfl
    | asked _ a ha =>
      -- a standard procedure that fails has not begun with the traverse
      have hcall := @Registry.standard_call e.units a.name a.args t
      rw [hr] at hv ⊢
      generalize (Registry.standard e.units).call a.name a.args t = called at hv hcall ⊢
      cases hcall with
      | failed => rfl
      | _ => cases hv
  | taken c o hp v hv r hset =>
    -- a call with a text for its memo has a label
    cases hset with
    | unlabelled _ _ p hp err' hl =>
      obtain ⟨memo, hmemo⟩ := hm
      rw [Call.label, hmemo] at hl
      cases hl
    | _ => cases hs

end Evaluator

end MetesBounds
