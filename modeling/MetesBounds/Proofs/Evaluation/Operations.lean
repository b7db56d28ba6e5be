import MetesBounds.Instruments.Known
import MetesBounds.Proofs.Evaluation.Run
import MetesBounds.Proofs.Traverse.Coherent

/-!
# `Evaluation/Operations` — every state that the operations on a traverse lead to is coherent

A traverse is worked on from outside by steps, evaluations and the four operations of its own, and
from inside a step by the procedure that is asked for. `Traverse.Touches` closes the operations
under both: a procedure that works on the traverse through them alone leads only where they lead,
and a step with such procedures is one of them again. The invariant is carried along this closure
once (`Traverse.Touches.coherent`); what is left is that each operation stays inside it.

Main statement: `Operation.coherent_of_applied`.
-/

set_option autoImplicit false

namespace MetesBounds

/-! ## Working on a traverse through its operations -/

/-- What can be made of a traverse through its operations alone. A step counts as one where the
procedure that it asks for does no more. -/
inductive Traverse.Touches : Traverse → Traverse → Prop
  | refl {t : Traverse} : Touches t t
  | bind {t u : Traverse} (hu : Touches t u) (s : Symbol) (v : Value) : Touches t (u.bind s v)
  | advance {t u : Traverse} (hu : Touches t u) (p : Point) (label : String) (index : Int) :
    Touches t (u.advance p label index)
  | clearPoints {t u : Traverse} (hu : Touches t u) : Touches t u.clearPoints
  | reset {t u : Traverse} (hu : Touches t u) : Touches t u.reset
  | step {t u : Traverse} (hu : Touches t u) (e : Evaluator) (item : Item) (index : Int)
    (ha : ∀ a, u.asked? item = some a → Touches u (e.procedures.call a.name a.args u).2) :
    Touches t (e.step u item index).traverse

/-- A procedure that works on the traverse, whether it fails or not, through its operations
alone. -/
def Procedure.Touching (p : Procedure) : Prop := ∀ items (t : Traverse), t.Touches (p.run items t).2

/-- A registry of procedures that work on the traverse through its operations alone. -/
def Registry.Touching (r : Registry) : Prop :=
  ∀ name e, r.get? name = some e → e.procedure.Touching

namespace Traverse.Touches

/-- **What is made of a coherent traverse through its operations is coherent.** -/
theorem coherent {t u : Traverse} (h : t.Touches u) (ht : t.Coherent) : u.Coherent := by
  induction h with
  | refl => exact ht
  | bind _ s v ih => exact (ih ht).bind s v
  | advance _ p label index ih => exact (ih ht).advance p label index
  | clearPoints _ ih => exact (ih ht).clearPoints
  | reset => exact .reset
  | step _ e item index _ ih iha =>
    exact Evaluator.step_preserves index (ih ht) (fun s => (ih ht).bind s _)
      (fun a ha => iha a ha (ih ht)) (fun _ v hu => hu.lastResult v)
      (fun _ p label hu => hu.advance p label index)

theorem trans {t u w : Traverse} (hu : t.Touches u) (hw : u.Touches w) : t.Touches w := by
  induction hw with
  | refl => exact hu
  | bind _ s v ih => exact (ih hu).bind s v
  | advance _ p label index ih => exact (ih hu).advance p label index
  | clearPoints _ ih => exact (ih hu).clearPoints
  | reset _ ih => exact (ih hu).reset
  | step _ e item index ha ih => exact (ih hu).step e item index ha

end Traverse.Touches

namespace Registry

/-- A call of a procedure goes no further than the procedure. -/
theorem Touching.call {r : Registry} (hr : r.Touching) (name args : Value) (t : Traverse) :
    t.Touches (r.call name args t).2 := by
  rw [Registry.call]
  cases hf : r.find name with
  | error err => exact .refl
  | ok found =>
    obtain ⟨s, e⟩ := found
    dsimp only
    cases arguments s e args with
    | error err => exact .refl
    | ok items => exact hr s e (find_eq_ok hf).2 _ t

theorem touching_of_reckons {p : Procedure} {f : List Value → Except Error Float}
    (hp : p.Reckons f) : p.Touching := by
  intro items t
  rw [hp]
  exact .refl

theorem touching_onTraverse {part : String} {f : Traverse → Traverse}
    (hf : ∀ t : Traverse, t.Touches (f t)) : (Procedure.onTraverse part f).Touching := by
  intro items t
  rw [Procedure.onTraverse]
  dsimp only
  split
  · exact hf t
  · exact .refl
  · exact .refl

/-- The standard procedures work on the traverse through its operations alone. -/
theorem standard_touching (units : UnitLibrary) : (standard units).Touching := by
  intro name e he
  rcases standard_get? he with ⟨f, hk, -⟩ | ⟨-, rfl⟩ | ⟨-, rfl⟩
  · exact touching_of_reckons hk
  · exact touching_onTraverse fun t => Traverse.Touches.refl.clearPoints
  · exact touching_onTraverse fun t => Traverse.Touches.refl.reset

/-- A registration of such a procedure keeps all others. -/
theorem Touching.register {r r' : Registry} (hr : r.Touching) {name : Value} {p : Procedure}
    (hp : p.Touching) {needsTraverse replace : Bool} {e : Entry}
    (h : r.register name (.procedure p) needsTraverse replace = .ok (r', e)) : r'.Touching := by
  obtain ⟨⟨s, entry⟩, he, h⟩ := bind_eq_ok.mp h
  cases h
  have hentry : e = ⟨p, needsTraverse⟩ := by
    obtain ⟨s', -, he⟩ := bind_eq_ok.mp he
    split at he
    · cases he
    · dsimp only at he
      split at he <;> cases he
      rfl
  intro n e hn
  rw [get?, Table.get?_insert] at hn
  split at hn
  · cases hn; rw [hentry]; exact hp
  · exact hr n e hn

end Registry

/-! ## Operations from outside -/

/-- What can be done to a traverse from outside. -/
inductive Operation where
  | step (e : Evaluator) (item : Item) (index : Int)
  | evaluate (e : Evaluator) (items : List Item)
  | evaluateAudited (e : Evaluator) (trail : Trail) (id : String) (items : List Item)
  | bind (name v : Value)
  | advance (p : Point) (label : String) (index : Int)
  | clearPoints
  | reset

namespace Operation

/-- The evaluator that an operation uses. -/
def evaluator? : Operation → Option Evaluator
  | step e .. | evaluate e _ | evaluateAudited e .. => some e
  | bind .. | advance .. | clearPoints | reset => none

/-- The traverse after an operation, whether it has failed or not. -/
def apply (t : Traverse) : Operation → Traverse
  | step e item index => (e.step t item index).traverse
  | evaluate e items => (e.evaluate t items).traverse
  | evaluateAudited e trail id items => (e.evaluateAudited t trail id items).1.traverse
  | bind name v =>
    match Symbol.ofValue name with
    | .ok s => t.bind s v
    | .error _ => t
  | advance p label index => t.advance p label index
  | clearPoints => t.clearPoints
  | reset => t.reset

/-- Whether the procedures that an operation can come to are the standard ones, or work on the
traverse through its operations alone. -/
def Confined (op : Operation) : Prop :=
  ∀ e, op.evaluator? = some e → e.procedures = .standard e.units ∨ e.procedures.Touching

theorem Confined.touching {op : Operation} (h : op.Confined) {e : Evaluator}
    (he : op.evaluator? = some e) : e.procedures.Touching := by
  rcases h e he with hs | ht
  · rw [hs]; exact Registry.standard_touching _
  · exact ht

/-- A run of items goes no further than its steps. -/
theorem touches_runFrom {e : Evaluator} (he : e.procedures.Touching) (count : Nat) (t : Traverse)
    (trail : Option Trail) (items : List Item) :
    t.Touches (e.runFrom count t trail items).outcome.traverse :=
  e.runFrom_preserves (P := t.Touches)
    (fun u item index hu => hu.step e item index fun a _ => he.call a.name a.args u) items count
    .refl trail

/-- An operation goes no further than the operations do. -/
theorem touches_apply {op : Operation} (h : op.Confined) (t : Traverse) :
    t.Touches (op.apply t) := by
  cases op with
  | step e item index =>
    exact Traverse.Touches.refl.step e item index fun a _ => (h.touching rfl).call a.name a.args t
  | evaluate e items => exact touches_runFrom (h.touching rfl) 0 t none items
  | evaluateAudited e trail id items =>
    rw [apply, Evaluator.evaluateAudited]
    split
    · exact .refl
    · exact touches_runFrom (h.touching rfl) 0 t _ items
  | bind name v =>
    rw [apply]
    split
    · exact Traverse.Touches.refl.bind _ v
    · exact .refl
  | advance p label index => exact Traverse.Touches.refl.advance p label index
  | clearPoints => exact Traverse.Touches.refl.clearPoints
  | reset => exact Traverse.Touches.refl.reset

theorem touches_foldl {ops : List Operation} (h : ∀ op ∈ ops, op.Confined) (t : Traverse) :
    t.Touches (ops.foldl apply t) := by
  induction ops generalizing t with
  | nil => exact .refl
  | cons op ops ih =>
    rw [List.foldl_cons]
    exact (touches_apply (h op List.mem_cons_self) t).trans
      (ih (fun op hop => h op (List.mem_cons_of_mem _ hop)) _)

/-- **Every state that operations lead to from the beginning is coherent**: with the standard
procedures, and with any that work on the traverse through the same operations. -/
theorem coherent_of_applied (marker : Value) (ops : List Operation)
    (h : ∀ op ∈ ops, op.Confined) : (ops.foldl apply (.start marker)).Coherent :=
  (touches_foldl h _).coherent (.start marker)

/-- A description that is evaluated, cleared and gone on with, where a registered procedure adds a
point of its own. -/
theorem coherent_of_applied_marking :
    let p : Point := ⟨.whole 1, .whole 2, 0⟩
    let mark : Procedure := .onTraverse "advance" fun t => t.advance p "P" 0
    let e : Evaluator := .standard .known .usual
    ∃ r entry, e.procedures.register (.text "mark") (.procedure mark) true false =
        .ok (r, entry) ∧
      let ops : List Operation := [
        .advance p "P1" 0, .clearPoints,
        .step { e with procedures := r } (.call (.procedure ⟨.text "mark", .row [], .text ""⟩)) 1,
        .evaluate e [.call (.binding ⟨.text "a", .text ""⟩), .other .nothing],
        .bind (.text "b") (.point p), .advance p "P2" 2]
      (∀ op ∈ ops, op.Confined) ∧ (ops.foldl apply (.start (.text "$"))).Coherent := by
  intro p mark e
  obtain ⟨r, entry, hr⟩ : ∃ r entry,
      e.procedures.register (.text "mark") (.procedure mark) true false = .ok (r, entry) :=
    ⟨_, _, rfl⟩
  refine ⟨r, entry, hr, ?_⟩
  intro ops
  have hmark : mark.Touching := Registry.touching_onTraverse fun t =>
    Traverse.Touches.refl.advance p "P" 0
  have h : ∀ op ∈ ops, op.Confined := by
    intro op hop
    simp only [ops, List.mem_cons, List.not_mem_nil, or_false] at hop
    rcases hop with rfl | rfl | rfl | rfl | rfl | rfl <;> intro e' he' <;> cases he'
    · exact .inr ((Registry.standard_touching _).register hmark hr)
    · exact .inl rfl
  exact ⟨h, coherent_of_applied (.text "$") ops h⟩

end Operation

end MetesBounds
