import MetesBounds.Instruments.Known
import MetesBounds.Proofs.Evaluation.Abreast

/-!
# `Evaluation/Memos` — memos never reach the geometry

A memo goes with its call through every step: it is a field that is substituted like the others, it
is in the messages of errors, and it makes the label of a station. None of this decides where a call
leads to. So calls that differ in their memos at most lead two evaluations of one state to the same
end, and past the same positions; and what they leave is the same but for the labels, each of which
is that of its own call. This is so of memos that begin like references, too.

Main statement: `Evaluator.memos_change_labels_only`.
-/

set_option autoImplicit false

namespace MetesBounds

/-- A station is that of one of some items: the item stands at its position and gives it its
label. -/
def Station.IsOf (items : List Item) (s : Station) : Prop :=
  ∃ (k : Nat) (item : Item), s.index = k ∧ items[k]? = some item ∧ item.Labels s.label

namespace Evaluator

variable {e : Evaluator} {items items' : List Item}

/-- The steps for items that differ in their memos at most, up to any position. -/
theorem inStep_take (hr : e.procedures = .standard e.units)
    (h : List.Forall₂ Item.ButMemo items items') (t : Traverse) (k : Nat) :
    e.InStep (fun _ _ => True) t.stations 0 0 t t (items.take k) (items'.take k) :=
  inStep hr (List.forall₂_take k h) (.refl t) (.refl _ _) fun _ _ _ _ _ _ _ _ _ _ => trivial

/-- **Evaluations of items that differ in their memos at most fail at the same position**, if they
fail at one, and over the same kind of thing. -/
theorem stopsAt_of_butMemo (hr : e.procedures = .standard e.units)
    (h : List.Forall₂ Item.ButMemo items items') {t : Traverse} (hne : items ≠ []) {err : Error}
    (herr : (e.evaluate t items).result = .error err) :
    ∃ err' k, (e.evaluate t items').result = .error err' ∧ err.family = err'.family ∧
      e.StopsAt t items err k ∧ e.StopsAt t items' err' k := by
  obtain ⟨k, item, hk, hw, hs⟩ := walk_eq_error (walk_of_evaluate_eq_error hne herr)
  rw [Nat.zero_add] at hs
  obtain ⟨item', hk', hitem⟩ := exists_of_forall₂ h hk
  -- the items before that position keep both in step, so both come to it, and both fail there
  have hbefore := inStep_take hr h t k
  have hstep := akin_step hr hitem hbefore.traverse (k : Nat) (k : Nat)
  rw [hs] at hstep
  obtain ⟨err', hs', hfamily⟩ := hstep.of_error
  have hresult := hbefore.result
  rw [hw] at hresult
  obtain ⟨_, hw', -⟩ := hresult.of_ok
  rw [← traverse_evaluate] at hs hs'
  have hlt : k < items.length := (List.getElem?_eq_some_iff.mp hk).1
  have hlt' : k < items'.length := (List.getElem?_eq_some_iff.mp hk').1
  exact ⟨err', k, (evaluate_of_step_error hk' hw' hs').1, hfamily,
    ⟨valueAt_isSome_of_walk (Nat.le_of_lt hlt) hw, item, hk, hs⟩,
    valueAt_isSome_of_walk (Nat.le_of_lt hlt') hw', item', hk', hs'⟩

/-- **Memos change labels only.** Take two lists of items that are the same but for memos, which are
texts, and evaluate both on one state, whatever that holds, with the standard procedures. Both
succeed, or both fail with an error of the same class, and at the same position. They leave the same
points, symbols, positions and last result. Of the stations that were there both keep the same, and
those that they add are in pairs with the same point and position, each with the label of its own
call. -/
theorem memos_change_labels_only (hr : e.procedures = .standard e.units)
    (h : List.Forall₂ Item.ButMemo items items') (t : Traverse) :
    let o := e.evaluate t items
    let o' := e.evaluate t items'
    Akin (fun r r' => r = .ofTraverse o.traverse ∧ r' = .ofTraverse o'.traverse)
        o.result o'.result ∧
      (∀ err, items ≠ [] → o.result = .error err →
        ∃ err' k, o'.result = .error err' ∧ err.family = err'.family ∧
          e.StopsAt t items err k ∧ e.StopsAt t items' err' k) ∧
      o.traverse.Abreast o'.traverse ∧
      ∃ kept made made', (kept = t.stations ∨ kept = []) ∧
        o.traverse.stations = kept ++ made ∧ o'.traverse.stations = kept ++ made' ∧
        List.Forall₂ (fun s s' => s.point = s'.point ∧ s.index = s'.index ∧ s.IsOf items ∧
          s'.IsOf items') made made' := by
  intro o o'
  have hrun : e.InStep (fun s s' => s.point = s'.point ∧ s.index = s'.index ∧ s.IsOf items ∧
      s'.IsOf items') t.stations 0 0 t t items items' := by
    refine inStep hr h (.refl t) (.refl _ _) fun k item item' hk hk' p label label' hl hl' => ?_
    rw [Nat.zero_add]
    exact ⟨rfl, rfl, ⟨k, item, rfl, hk, hl⟩, k, item', rfl, hk', hl'⟩
  refine ⟨akin_evaluate hrun.result, fun err hne herr => stopsAt_of_butMemo hr h hne herr, ?_, ?_⟩
  · rw [traverse_evaluate, traverse_evaluate]
    exact hrun.traverse
  · simp only [o, o', traverse_evaluate]
    by_cases hempties : e.Empties 0 t items
    · obtain ⟨made, made', hmade, hmade', hpairs⟩ := hrun.emptied hempties
      exact ⟨[], made, made', .inr rfl, hmade, hmade', hpairs⟩
    · obtain ⟨made, made', hmade, hmade', hpairs⟩ := hrun.kept hempties
      exact ⟨t.stations, made, made', .inl rfl, hmade, hmade', hpairs⟩

/-- A point, and a line over a bearing that is not bound; and the same calls with memos that begin
like references to it. -/
theorem memos_change_labels_only_marked :
    let e : Evaluator := .standard .known .usual
    let items (memo : String) : List Item := [.call (.point ⟨.ofInt 1, .ofInt 2, .text memo⟩),
      .call (.line ⟨.reference "b", .ofInt 3, .text "TRUE", .text memo⟩)]
    List.Forall₂ Item.ButMemo (items "1") (items "$b") ∧
      (e.evaluate e.start (items "1")).result = .error (.unresolved "b") ∧
      (∃ err k, (e.evaluate e.start (items "$b")).result = .error err ∧
        err.family = (Error.unresolved "b").family ∧ e.StopsAt e.start (items "$b") err k) ∧
      (e.evaluate e.start (items "1")).traverse.Abreast
        (e.evaluate e.start (items "$b")).traverse := by
  intro e items
  have htexts : (Value.text "1").BothText (.text "$b") := ⟨⟨_, rfl⟩, _, rfl⟩
  have h : List.Forall₂ Item.ButMemo (items "1") (items "$b") :=
    .cons (.call (.point (.inl rfl) (.inl rfl) (.inr ⟨rfl, htexts⟩)))
      (.cons (.call (.line (.inl rfl) (.inl rfl) (.inl rfl) (.inr ⟨rfl, htexts⟩))) .nil)
  obtain ⟨-, hfails, hsame, -⟩ := memos_change_labels_only (e := e) rfl h e.start
  obtain ⟨err', k, herr', hfamily, -, hstop⟩ := hfails _ (List.cons_ne_nil _ _) rfl
  exact ⟨h, rfl, ⟨err', k, herr', hfamily.symm, hstop⟩, hsame⟩

end Evaluator

end MetesBounds
