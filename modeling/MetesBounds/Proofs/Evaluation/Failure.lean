import MetesBounds.Instruments.Known
import MetesBounds.Proofs.Evaluation.Run

/-!
# `Evaluation/Failure` — what a failure leaves behind

Errors come from everywhere in a step: from the references, from what a call lacks, from its
numbers and units, from the registry and from the procedure. None of them comes after a change. So
an evaluation that fails has done exactly what the items before the failing one do.

Main statement: `Evaluator.failure_leaves_state_before`.
-/

set_option autoImplicit false

namespace MetesBounds.Evaluator

variable {e : Evaluator} {t : Traverse} {items : List Item} {err : Error}

/-- Where the failing evaluation of some items stops: every step before it is completed, and the
step there fails with the evaluation's error. -/
def StopsAt (e : Evaluator) (t : Traverse) (items : List Item) (err : Error) (k : Nat) : Prop :=
  (∀ j < k, (e.valueAt t items j).isSome) ∧
    ∃ item, items[k]? = some item ∧ (e.step (e.before t items k) item k).result = .error err

/-- Steps that come to their end have all been completed. -/
theorem valueAt_isSome_of_walk {k : Nat} (hk : k ≤ items.length)
    (h : (e.walk 0 t (items.take k)).result = .ok ()) : ∀ j < k, (e.valueAt t items j).isSome := by
  induction k with
  | zero => intro j hj; cases hj
  | succ k ih =>
    have hitem : items[k]? = some items[k] := List.getElem?_eq_getElem hk
    rw [walk_take_succ hitem] at h
    cases hw : (e.walk 0 t (items.take k)).result with
    | error err => simp only [hw] at h; cases h
    | ok u =>
      simp only [hw, Outcome.after, walk] at h
      cases hs : (e.step (e.before t items k) items[k] k).result with
      | error err => simp only [hs] at h; cases h
      | ok s =>
        intro j hj
        rcases Nat.lt_succ_iff_lt_or_eq.mp hj with hj | rfl
        · exact ih (Nat.le_of_succ_le hk) hw j hj
        · rw [valueAt_eq hitem hs]; rfl

/-- Steps that have all been completed come to their end. -/
theorem walk_of_valueAt {k : Nat} (h : ∀ j < k, ∃ v, e.valueAt t items j = some v) :
    (e.walk 0 t (items.take k)).result = .ok () := by
  induction k with
  | zero => rw [List.take_zero, walk]
  | succ k ih =>
    have hw := ih fun j hj => h j (Nat.lt_succ_of_lt hj)
    obtain ⟨v, hv⟩ := h k (Nat.lt_succ_self k)
    obtain ⟨item, s, hitem, hs, -⟩ := step_of_valueAt hv
    rw [walk_take_succ hitem, hw]
    simp only [Outcome.after, walk, hs]

/-- The steps for the items up to and with the one that fails are those for all of them. -/
theorem walk_take_of_error {k : Nat} {item : Item} (hk : items[k]? = some item)
    (hw : (e.walk 0 t (items.take k)).result = .ok ())
    (hs : (e.step (e.before t items k) item k).result = .error err) :
    (e.walk 0 t (items.take (k + 1))).result = .error err ∧
      (e.walk 0 t (items.take (k + 1))).traverse =
        (e.step (e.before t items k) item k).traverse := by
  rw [walk_take_succ hk, hw]
  simp only [Outcome.after, walk, hs, and_self]

/-- An evaluation fails as its first failing step does. -/
theorem evaluate_of_step_error {k : Nat} {item : Item} (hk : items[k]? = some item)
    (hw : (e.walk 0 t (items.take k)).result = .ok ())
    (hs : (e.step (e.before t items k) item k).result = .error err) :
    (e.evaluate t items).result = .error err ∧
      (e.evaluate t items).traverse = (e.step (e.before t items k) item k).traverse := by
  obtain ⟨herr, htrav⟩ := walk_take_of_error hk hw hs
  have he := evaluate_append_of_error herr (items.drop (k + 1))
  rw [List.take_append_drop] at he
  rw [he, resultOf, herr, htrav]
  exact ⟨rfl, rfl⟩

/-- Only an evaluator that can tell what it reports gets through any item. -/
theorem logs_of_walk {count : Nat} (hne : items ≠ []) (h : (e.walk count t items).result = .ok ()) :
    e.Logs := by
  cases items with
  | nil => exact absurd rfl hne
  | cons item rest =>
    rw [walk] at h
    cases hs : (e.step t item count).result with
    | error err => simp only [hs] at h; cases h
    | ok s => exact logs_of_step hs

/-- An evaluation of some items that fails does so in its steps. -/
theorem walk_of_evaluate_eq_error (hne : items ≠ [])
    (h : (e.evaluate t items).result = .error err) : (e.walk 0 t items).result = .error err := by
  cases hw : (e.walk 0 t items).result with
  | error err' =>
    rw [evaluate_of_walk_error hw, resultOf, hw] at h
    cases h
    rfl
  | ok u =>
    have ho := evaluate_eq_ok.mpr ⟨hw, logs_of_walk hne hw, rfl⟩
    rw [ho] at h
    cases h

/-- **A failure leaves exactly the state of the prefix.** A failing step of the standard procedures
leaves its state untouched. So an evaluation that fails over an item stops at one position, with
the error that the step there raises in the state of the items before it; it leaves that state, and
whatever items follow change nothing. (Without items there is no position to fail at.) -/
theorem failure_leaves_state_before (hr : e.procedures = .standard e.units) (t : Traverse) :
    (∀ item index err, item.TextMemo → (e.step t item index).result = .error err →
      (e.step t item index).traverse = t) ∧
    ∀ items err, (∀ item ∈ items, item.TextMemo) → items ≠ [] →
      (e.evaluate t items).result = .error err →
      ∃ k, e.StopsAt t items err k ∧
        (e.evaluate t items).traverse = (e.evaluate t (items.take k)).traverse ∧
        ∀ rest, e.evaluate t (items.take (k + 1) ++ rest) = e.evaluate t items := by
  refine ⟨fun item index err hm h => traverse_step_of_error hr hm h, ?_⟩
  intro items err hm hne h
  obtain ⟨k, item, hk, hw, hs⟩ := walk_eq_error (walk_of_evaluate_eq_error hne h)
  rw [← traverse_evaluate, Nat.zero_add] at hs
  have hlt : k < items.length := (List.getElem?_eq_some_iff.mp hk).1
  have hstop : (e.step (e.before t items k) item k).traverse = e.before t items k :=
    traverse_step_of_error hr (hm item (List.mem_of_getElem? hk)) hs
  obtain ⟨herr, htrav⟩ := walk_take_of_error hk hw hs
  -- the items themselves are one way to go on behind the failure
  have hrest : ∀ rest, e.evaluate t (items.take (k + 1) ++ rest) = e.evaluate t items := by
    intro rest
    rw [evaluate_append_of_error herr, ← evaluate_append_of_error herr (items.drop (k + 1)),
      List.take_append_drop]
  refine ⟨k, ⟨valueAt_isSome_of_walk (Nat.le_of_lt hlt) hw, item, hk, hs⟩, ?_, hrest⟩
  rw [← hrest [], List.append_nil, traverse_evaluate, htrav, hstop, before]

/-- A line that walks on an unbound bearing, after a binding call that has been completed. -/
theorem failure_leaves_state_before_unbound :
    let e : Evaluator := .standard .known .usual
    let items : List Item := [.call (.binding ⟨.text "a", .text ""⟩),
      .call (.line ⟨.reference "b", .ofInt 3, .text "TRUE", .text ""⟩),
      .other .nothing]
    (e.evaluate e.start items).result = .error (.unresolved "b") ∧
      ∃ k, e.StopsAt e.start items (.unresolved "b") k ∧
        (e.evaluate e.start items).traverse = (e.evaluate e.start (items.take k)).traverse ∧
        ∀ rest, e.evaluate e.start (items.take (k + 1) ++ rest) = e.evaluate e.start items := by
  intro e items
  have hm : ∀ item ∈ items, item.TextMemo :=
    List.forall_mem_cons.mpr ⟨⟨"", rfl⟩,
      List.forall_mem_cons.mpr ⟨⟨"", rfl⟩, List.forall_mem_singleton.mpr trivial⟩⟩
  have h : (e.evaluate e.start items).result = .error (.unresolved "b") := rfl
  have hne : items ≠ [] := List.cons_ne_nil _ _
  exact ⟨h, (failure_leaves_state_before (e := e) rfl e.start).2 items _ hm hne h⟩

end MetesBounds.Evaluator
