import MetesBounds.Proofs.Traverse.Resolution
import MetesBounds.Proofs.Traverse.Substitution

/-!
# `Traverse/Once` — a substitution resolves every reference, once, and touches nothing else

A substitution either comes back with a call of the same kind, in which every field holds what it
stood for, or it refuses the call over the first name in it that nothing is bound under. A call that
refers to nothing comes back as it is. So does one whose references are bound to themselves, which
is when it need not be copied (`Traverse.keeps`).

Main statement: `Traverse.references_replaced_once`.
-/

set_option autoImplicit false

namespace MetesBounds

/-- Work on the fields of a call that leaves each of them as it is leaves the call as it is. -/
theorem Call.mapFields_self {f : Field → Value → Except Error Value} {c : Call}
    (h : ∀ e ∈ c.entries, f e.1 e.2 = .ok e.2) : c.mapFields f = .ok c := by
  cases c <;> simp only [entries, List.mem_cons, List.not_mem_nil, or_false, forall_eq_or_imp,
    forall_eq] at h
  case point c => simp only [mapFields, h]; rfl
  case line c => simp only [mapFields, h]; rfl
  case curve c => simp only [mapFields, h]; rfl
  case procedure c => simp only [mapFields, h]; rfl
  case binding c => simp only [mapFields, h]; rfl

namespace Traverse

variable {t : Traverse}

/-! ## What refers to a name -/

/-- Under a marker that is text, a value refers to a name if it is the reference to it or the text
that begins with the marker and goes on with the name. -/
theorem referent?_eq_some {start : String} (hm : t.marker = .text start) {v : Value}
    {name : String} : t.referent? v = some name ↔
      v = .reference name ∨ (start ≠ "" ∧ v = .text (start ++ name)) := by
  cases v with
  | text s =>
    have hname : t.referent? (.text s) = Value.nameIn? start s := by
      rw [referent?, Value.marked, hm, Value.markedName?]
      cases Value.nameIn? start s <;> rfl
    rw [hname, Value.nameIn?_eq_some]
    simp
  | reference n => simp [referent?, Value.marked]
  | _ => simp [referent?, Value.marked]

/-- Nothing in a call refers to a name. -/
def RefersNowhere (t : Traverse) (c : Call) : Prop :=
  ∀ e ∈ c.entries, ∀ v ∈ places e.1 e.2, t.referent? v = none

/-- A call has an unbound name just where something in it refers to one. -/
theorem firstUnbound?_eq_none {c : Call} : t.firstUnbound? c = none ↔
    ∀ e ∈ c.entries, ∀ v ∈ places e.1 e.2, t.unbound? v = none := by
  simp only [firstUnbound?, List.findSome?_eq_none_iff]

/-! ## What is left as it is -/

theorem keepsItem_of_referent? {v : Value} (h : t.referent? v = none) : t.keepsItem v = true := by
  unfold keepsItem
  rw [h]

/-- An item that is kept is what it stands for, also where it refers to its own spelling. -/
theorem resolve_of_keepsItem (hm : t.marker.Marks) {v : Value} (h : t.keepsItem v = true) :
    t.resolve v = .ok v := by
  obtain ⟨w, hw⟩ := hm.marked v
  rw [resolve, hw]
  by_cases hu : ∃ name, w = .reference name
  · obtain ⟨name, rfl⟩ := hu
    have hn : t.referent? v = some name := by rw [referent?, hw]
    change t.lookup name = .ok v
    unfold keepsItem at h
    rw [hn] at h
    dsimp only at h
    split at h
    · next s r hr => rw [lookup, hr, eq_of_beq h]; rfl
    · next s r hr => rw [lookup, hr, eq_of_beq h]; rfl
    · cases h
  · have hv : w = v := eq_of_marked hw fun name h => hu ⟨name, h⟩
    cases w with
    | reference name => exact absurd ⟨name, rfl⟩ hu
    | _ => subst hv; rfl

theorem keepsField_of_places {f : Field} {v : Value}
    (h : ∀ w ∈ places f v, t.referent? w = none) : t.keepsField f v = true := by
  cases v with
  | row items =>
    unfold keepsField
    exact List.all_eq_true.mpr fun w hw => keepsItem_of_referent? (h w hw)
  | _ =>
    by_cases hf : f = .memo
    · subst hf
      rfl
    · have hp : ∀ w : Value, (∀ items, w ≠ .row items) → w ∈ places f w := by
        intro w hw
        cases w with
        | row items => exact absurd rfl (hw items)
        | _ => cases f <;> first | exact absurd rfl hf | exact List.mem_singleton.mpr rfl
      have hn := h _ (hp _ fun _ h => nomatch h)
      simp [keepsField, hn]

/-- A field that is kept is what it stands for. -/
theorem resolveField_of_keepsField (hm : t.marker.Marks) {f : Field} {v : Value}
    (h : t.keepsField f v = true) : t.resolveField f v = .ok v := by
  -- outside rows all values are treated alike
  have alone {w : Value}
      (hw : (f == .memo || (t.referent? w).isNone || (isCharacter w && t.keepsItem w)) = true) :
      (if f = .memo then .ok w else t.resolve w) = .ok w := by
    by_cases hf : f = .memo
    · rw [if_pos hf]
    · rw [if_neg hf]
      simp only [Bool.or_eq_true, beq_iff_eq, hf, false_or, Option.isNone_iff_eq_none,
        Bool.and_eq_true] at hw
      rcases hw with hn | ⟨-, hk⟩
      · exact resolve_of_keepsItem hm (keepsItem_of_referent? hn)
      · exact resolve_of_keepsItem hm hk
  cases v with
  | row items =>
    unfold keepsField at h
    have hitems : items.mapM t.resolve = .ok items := by
      induction items with
      | nil => rfl
      | cons v rest ih =>
        simp only [List.all_cons, Bool.and_eq_true] at h
        obtain ⟨hv, hrest⟩ := h
        rw [List.mapM_cons, resolve_of_keepsItem hm hv, ih hrest]
        rfl
    rw [resolveField, hitems]
    rfl
  | _ => exact alone h

/-- **A call that need not be copied comes back as it is.** -/
theorem substitute_of_keeps (hm : t.marker.Marks) {c : Call} (h : t.keeps c = true) :
    t.substitute c = .ok c :=
  Call.mapFields_self fun e he => resolveField_of_keepsField hm (List.all_eq_true.mp h e he)

theorem RefersNowhere.keeps {c : Call} (h : t.RefersNowhere c) : t.keeps c = true :=
  List.all_eq_true.mpr fun e he => keepsField_of_places (h e he)

/-- **References are replaced once, and nothing else is.** Where the memo is text, a substitution
leads to a call of the same kind and with the same memo, each of whose fields, and each item of a
field that is a row, is what it stood for: what is bound under the name that it refers to, or itself.
Or it fails, over the first unbound name in the order of fields, which it does just where there is
one. A call that refers to nothing need not be copied, and one that need not be copied comes back as
it is, as often as it is substituted. What refers to a name are references, and texts that begin with
the marker where that is a text that says something. -/
theorem references_replaced_once (hm : t.marker.Marks) {c : Call} {memo : String}
    (hc : c.memo = .text memo) :
    ((∃ c', t.substitute c = .ok c' ∧ c'.kind = c.kind ∧ c'.memo = c.memo ∧
        c.Fieldwise t.FieldStands c' ∧
        ∀ e ∈ c.entries, ∀ v ∈ places e.1 e.2, t.unbound? v = none) ∨
      ∃ n, t.substitute c = .error (.unresolved n) ∧ t.firstUnbound? c = some n) ∧
    (t.RefersNowhere c → t.keeps c = true) ∧
    (t.keeps c = true → t.substitute c = .ok c) ∧
    ∀ start, t.marker = .text start → ∀ v name, t.referent? v = some name ↔
      v = .reference name ∨ (start ≠ "" ∧ v = .text (start ++ name)) := by
  refine ⟨?_, RefersNowhere.keeps, substitute_of_keeps hm, fun _ hs _ _ => referent?_eq_some hs⟩
  cases h : t.substitute c with
  | ok c' =>
    left
    refine ⟨c', rfl, Call.mapFields_kind h, ?_, stands_of_substitute h, ?_⟩
    · rw [hc]
      exact substitute_memo h hc
    · rw [← firstUnbound?_eq_none]
      cases hn : t.firstUnbound? c with
      | none => rfl
      | some n =>
        have herr : t.substitute c = .error (.unresolved n) :=
          (substitute_eq_error hm).mpr ⟨n, hn, rfl⟩
        rw [h] at herr
        cases herr
  | error err =>
    right
    obtain ⟨n, hn, rfl⟩ := (substitute_eq_error hm).mp h
    exact ⟨n, rfl, hn⟩

/-- Two names are bound to what refers back: `x` to a marked text and `y` to a reference. Neither is
followed, and the memo, a marked text itself, is kept. -/
theorem references_replaced_once_circle :
    let t := ((start (.text "@")).bind (.named "x") (.text "@y")).bind (.named "y") (.reference "x")
    let c := Call.procedure
      ⟨.text "@y", .row [.text "@x", .reference "y", .text "x", .nothing], .text "@x"⟩
    t.marker.Marks ∧ c.memo = .text "@x" ∧ ∃ c', t.substitute c = .ok c' ∧ c'.kind = c.kind ∧
      c'.memo = c.memo ∧ c.Fieldwise t.FieldStands c' ∧
      c' = .procedure
        ⟨.reference "x", .row [.text "@y", .reference "x", .text "x", .nothing], .text "@x"⟩ := by
  intro t c
  have hm : t.marker.Marks := Value.marks_text "@"
  rcases (references_replaced_once hm (c := c) rfl).1 with ⟨c', h, hk, hmemo, hf, -⟩ | ⟨n, -, hn⟩
  · refine ⟨hm, rfl, c', h, hk, hmemo, hf, ?_⟩
    have hc' : t.substitute c = .ok (.procedure
        ⟨.reference "x", .row [.text "@y", .reference "x", .text "x", .nothing], .text "@x"⟩) := rfl
    rw [h] at hc'
    exact Except.ok.inj hc'
  · have hnone : t.firstUnbound? c = none := by decide +kernel
    rw [hn] at hnone
    cases hnone

end Traverse

end MetesBounds
