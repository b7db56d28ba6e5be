import MetesBounds.Instruments.Known
import MetesBounds.Proofs.Evaluation.Abreast
import MetesBounds.Proofs.Evaluation.Transparency
import MetesBounds.Proofs.Traverse.Resolution

/-!
# `Evaluation/Spelling` — a reference has two spellings

A reference is written as such, or as a text that begins with the marker. Both are looked up in the
same place, before a call does anything else, and what has been looked up is not looked at again. So
wherever references stand, in a field or in a row, but in a binding call, it makes no difference in
which of the two ways they are written.

Main statement: `Evaluator.respelling_changes_nothing`.
-/

set_option autoImplicit false

namespace MetesBounds

/-! ## Two spellings -/

/-- Two values are the same, or a reference and the text that begins with the marker and goes on with
its name. -/
inductive Value.Respelled (marker : String) : Value → Value → Prop
  | same (v : Value) : Respelled marker v v
  | marked (name : String) : Respelled marker (.reference name) (.text (marker ++ name))

/-- Two values of a field are the same but for spellings; a memo is the same. -/
inductive Field.Respelled (marker : String) : Field → Value → Value → Prop
  | same (f : Field) (v : Value) : Respelled marker f v v
  | alone {f : Field} (hf : f ≠ .memo) {v w : Value} (h : v.Respelled marker w) :
    Respelled marker f v w
  | row {f : Field} (hf : f ≠ .memo) {items items' : List Value}
    (h : List.Forall₂ (Value.Respelled marker) items items') :
    Respelled marker f (.row items) (.row items')

theorem Field.Respelled.memo_eq {marker : String} {v w : Value}
    (h : Field.memo.Respelled marker v w) : v = w := by
  cases h with
  | same => rfl
  | alone hf => exact absurd rfl hf
  | row hf => exact absurd rfl hf

/-- Two items are the same, or calls other than binding calls that are the same but for
spellings. -/
inductive Item.Respelled (marker : String) : Item → Item → Prop
  | same (item : Item) : Respelled marker item item
  | call {c c' : Call} (hk : c.kind ≠ .binding) (h : c.Fieldwise (Field.Respelled marker) c') :
    Respelled marker (.call c) (.call c')

/-- Both spellings can be written. -/
theorem Value.Respelled.isOverlong_eq {marker : String} {v w : Value} (h : v.Respelled marker w) :
    v.isOverlong = w.isOverlong := by
  cases h <;> rfl

theorem Field.Respelled.isOverlong_eq {marker : String} {f : Field} {v w : Value}
    (h : f.Respelled marker v w) : v.isOverlong = w.isOverlong := by
  cases h with
  | same => rfl
  | alone _ h => exact h.isOverlong_eq
  | row _ h =>
    rw [Value.isOverlong, Value.isOverlong]
    induction h with
    | nil => rfl
    | cons hv _ ih => rw [Value.isOverlongAmong, Value.isOverlongAmong, hv.isOverlong_eq, ih]

namespace Traverse

variable {t : Traverse} {marker : String} (hne : marker ≠ "") (hm : t.marker = .text marker)

include hne hm

theorem resolve_eq {v w : Value} (h : v.Respelled marker w) : t.resolve v = t.resolve w := by
  cases h with
  | same => rfl
  | marked name =>
    have hmarked : (Value.text (marker ++ name)).marked t.marker = .ok (.reference name) := by
      rw [Value.marked, hm, Value.markedName?,
        Value.nameIn?_eq_some.mpr ⟨hne, rfl⟩]
      rfl
    have hreference : (Value.reference name).marked t.marker = .ok (.reference name) := rfl
    rw [resolve, resolve, hmarked, hreference]

theorem resolveField_eq {f : Field} {v w : Value} (h : f.Respelled marker v w) :
    t.resolveField f v = t.resolveField f w := by
  cases h with
  | same => rfl
  | alone hf h =>
    have hv := resolve_eq hne hm h
    cases h with
    | same => rfl
    | marked name =>
      change (if f = .memo then _ else t.resolve _) = if f = .memo then _ else t.resolve _
      rw [if_neg hf, if_neg hf, hv]
  | @row _ items items' h =>
    have hitems : items.mapM t.resolve = items'.mapM t.resolve := by
      induction h with
      | nil => rfl
      | cons hv _ ih => rw [List.mapM_cons, List.mapM_cons, resolve_eq hne hm hv, ih]
    rw [resolveField, resolveField, hitems]

/-- Both spellings are replaced by the same. -/
theorem substitute_eq {c c' : Call} (h : c.Fieldwise (Field.Respelled marker) c') :
    t.substitute c = t.substitute c' :=
  (h.mono fun _ _ _ hf => resolveField_eq hne hm hf).mapFields_eq

end Traverse

namespace Evaluator

variable {e : Evaluator} {t : Traverse} {marker : String}

/-! ## Steps -/

theorem complete_eq (hne : marker ≠ "") (hm : t.marker = .text marker) {c c' : Call}
    (hk : c.kind ≠ .binding) (h : c.Fieldwise (Field.Respelled marker) c') (index : Int) :
    e.complete t c index = e.complete t c' index := by
  have hk' : c'.kind ≠ .binding := h.kind ▸ hk
  have hperform : e.perform t c = e.perform t c' := by
    rw [perform_of_ne_binding hk, perform_of_ne_binding hk', Traverse.substitute_eq hne hm h]
  -- the label is made of the call as it was written, but memos have one spelling
  have hlabel : c.label = c'.label := by
    have hmemo : c.memo = c'.memo := Field.Respelled.memo_eq h.memo
    rw [Call.label, Call.label, h.kind, hmemo]
  have hsettle (u : Traverse) (v : Value) : settle u c index v = settle u c' index v := by
    rw [settle_of_ne_binding hk, settle_of_ne_binding hk', hlabel]
  simp only [complete, hperform, hsettle]

theorem step_respelled (hne : marker ≠ "") (hm : t.marker = .text marker) {item item' : Item}
    (h : item.Respelled marker item') (index : Int) :
    (e.step t item index).Agrees (e.step t item' index) := by
  cases h with
  | same => exact .refl _
  | @call c c' hk h =>
    have hlong : c'.isOverlong = c.isOverlong :=
      (h.isOverlong_eq fun _ _ _ hf => hf.isOverlong_eq).symm
    by_cases hl : e.Announces c
    · have hl' : e.Announces c' := ⟨hlong.trans hl.1, hl.2⟩
      obtain ⟨hres, htrav⟩ := step_of_announces hl t index
      obtain ⟨hres', htrav'⟩ := step_of_announces hl' t index
      rw [← complete_eq hne hm hk h] at hres' htrav'
      exact ⟨hres.trans hres'.symm, htrav.trans htrav'.symm⟩
    · obtain ⟨err, herr⟩ := step_of_not_announces hl
      rw [herr t c index rfl, herr t c' index hlong]
      exact .refl _

/-! ## Runs -/

variable {items items' : List Item}

theorem walk_respelled (hr : e.procedures = .standard e.units) (hne : marker ≠ "")
    (h : List.Forall₂ (Item.Respelled marker) items items') (hm : t.marker = .text marker)
    (count : Nat) : (e.walk count t items).Agrees (e.walk count t items') := by
  induction h generalizing t count with
  | nil => exact .refl _
  | @cons item item' rest rest' hitem _ ih =>
    have hstep := step_respelled (e := e) hne hm hitem count
    cases hs : (e.step t item count).result with
    | error err =>
      obtain ⟨hres, htrav⟩ := walk_cons_of_error hs rest
      obtain ⟨hres', htrav'⟩ := walk_cons_of_error (hstep.result ▸ hs) rest'
      exact ⟨hres.trans hres'.symm, by rw [htrav, htrav', hstep.traverse]⟩
    | ok s =>
      -- no deed changes the marker, so both go on from a state that has it still
      obtain ⟨d, hd⟩ := exists_does_self hr t item count
      have hmarker : (e.step t item count).traverse.marker = .text marker := by
        rw [hd.traverse, d.marker_apply, hm]
      rw [walk_cons_of_ok hs, walk_cons_of_ok (hstep.result ▸ hs), ← hstep.traverse]
      exact (ih hmarker (count + 1)).after _ _

theorem evaluate_respelled (hr : e.procedures = .standard e.units) (hne : marker ≠ "")
    (h : List.Forall₂ (Item.Respelled marker) items items') (hm : t.marker = .text marker) :
    (e.evaluate t items).Agrees (e.evaluate t items') := by
  have hwalk := walk_respelled hr hne h hm 0
  have htrav : (e.evaluate t items).traverse = (e.evaluate t items').traverse := by
    rw [traverse_evaluate, traverse_evaluate, hwalk.traverse]
  refine ⟨?_, htrav⟩
  rw [result_evaluate_eq, result_evaluate_eq, htrav, hwalk.result, hwalk.traverse, h.length_eq]

/-! ## Positions -/

/-- What the step at a position comes to, if there is one. -/
def resultAt (e : Evaluator) (t : Traverse) (items : List Item) (k : Nat) :
    Option (Except Error Step) :=
  items[k]?.map fun item => (e.step (e.before t items k) item k).result

theorem valueAt_eq_resultAt (k : Nat) : e.valueAt t items k =
    (e.resultAt t items k).bind fun r =>
      match r with
      | .ok s => some s.value
      | .error _ => none := by
  rw [valueAt, resultAt, Option.bind_map]
  rfl

/-- Where an evaluation stops is decided by what its steps come to. -/
theorem stopsAt_of_resultAt (h : ∀ k, e.resultAt t items k = e.resultAt t items' k) {err : Error}
    {k : Nat} (hstop : e.StopsAt t items err k) : e.StopsAt t items' err k := by
  obtain ⟨hdone, item, hk, hs⟩ := hstop
  refine ⟨fun j hj => ?_, ?_⟩
  · rw [valueAt_eq_resultAt, ← h, ← valueAt_eq_resultAt]
    exact hdone j hj
  · have hk' := h k
    rw [resultAt, hk, Option.map_some, hs] at hk'
    exact Option.map_eq_some_iff.mp hk'.symm

theorem resultAt_respelled (hr : e.procedures = .standard e.units) (hne : marker ≠ "")
    (h : List.Forall₂ (Item.Respelled marker) items items') (hm : t.marker = .text marker)
    (k : Nat) : e.resultAt t items k = e.resultAt t items' k := by
  have hbefore : e.before t items k = e.before t items' k :=
    (evaluate_respelled hr hne (List.forall₂_take k h) hm).traverse
  have hmarker : (e.before t items k).marker = .text marker :=
    evaluate_preserves hr (P := fun u => u.marker = .text marker)
      (fun u d index hu => (d.marker_apply index u).trans hu) hm (items.take k)
  rw [resultAt, resultAt]
  cases hk : items[k]? with
  | none =>
    have hk' : items'[k]? = none := by
      rw [List.getElem?_eq_none_iff] at hk ⊢
      rwa [← h.length_eq]
    rw [hk']
    rfl
  | some item =>
    obtain ⟨item', hk', hitem⟩ := exists_of_forall₂ h hk
    rw [hk', Option.map_some, Option.map_some, ← hbefore]
    exact congrArg some (step_respelled hne hmarker hitem k).result

/-- **The two spellings of a reference are interchangeable.** Take two lists of items that are the same
but for spellings, in calls other than binding calls, and evaluate both on one state whose marker is
a text that is not empty, with the standard procedures. They come to the same result, or to the same
error at the same position, and leave the same state in all its parts. What is bound under a name is
never looked at again: in a call whose references have been replaced every field holds just what it
stands for, and what such a call does is what is done with these fields. -/
theorem respelling_changes_nothing (hr : e.procedures = .standard e.units) (hne : marker ≠ "")
    (hm : t.marker = .text marker)
    (h : List.Forall₂ (Item.Respelled marker) items items') :
    (e.evaluate t items).Agrees (e.evaluate t items') ∧
      (∀ err k, e.StopsAt t items err k ↔ e.StopsAt t items' err k) ∧
      ∀ u c c', c.kind ≠ .binding → u.substitute c = .ok c' →
        c.Fieldwise u.FieldStands c' ∧ e.perform u c = e.act u c' := by
  have hresult := resultAt_respelled hr hne h hm
  refine ⟨evaluate_respelled hr hne h hm, fun err k => ?_, fun u c c' hk hs => ?_⟩
  · exact ⟨stopsAt_of_resultAt hresult, stopsAt_of_resultAt fun k => (hresult k).symm⟩
  · exact ⟨Traverse.stands_of_substitute hs, by rw [perform_of_ne_binding hk, hs]⟩

/-- What is bound under a name begins with the marker. It is no bearing, in whichever way it is
referred to, and the name in it is not looked for. -/
theorem respelling_changes_nothing_bound :
    let e : Evaluator := .standard .known .usual
    let t := e.start.bind (.named "p") (.text "$q")
    let items (v : Value) : List Item := [.call (.binding ⟨.text "r", .text ""⟩),
      .call (.procedure ⟨.text "bearingToDegrees", .row [v], .text "$p"⟩)]
    let plain := items (.reference "p")
    let marked := items (.text "$p")
    t.marker = .text "$" ∧ List.Forall₂ (Item.Respelled "$") plain marked ∧
      (e.evaluate t plain).result = .error (.badBearing (Text.quoted "$q")) ∧
      (e.evaluate t plain).Agrees (e.evaluate t marked) ∧
      ∀ err k, e.StopsAt t plain err k ↔ e.StopsAt t marked err k := by
  intro e t items plain marked
  have hm : t.marker = .text "$" := rfl
  have hres : (e.evaluate t plain).result = .error (.badBearing (Text.quoted "$q")) := by
    simp only [plain, items, t, e]
    rfl
  have h : List.Forall₂ (Item.Respelled "$") plain marked :=
    .cons (.same _) (.cons (.call (by decide) (.procedure (.same _ _)
      (.row (by decide) (.cons (.marked "p") .nil)) (.same _ _))) .nil)
  obtain ⟨hagrees, hstops, -⟩ :=
    respelling_changes_nothing (e := e) rfl (by decide) hm h
  exact ⟨hm, h, hres, hagrees, hstops⟩

end Evaluator

end MetesBounds
