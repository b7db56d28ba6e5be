import MetesBounds.Proofs.Traverse.Fieldwise
import MetesBounds.Traverse

/-!
# `Traverse/Resolution` — what stands in a call once its references are replaced

A reference is replaced by what is bound under its name, and with that it is done: what is bound may
be a reference itself, or a text that begins like one, and it is left as it is. `Traverse.Stands`
says what a value stands for in a state, `Traverse.FieldStands` says it of a field, and a
substitution leaves in every field what it stands for.

Main statement: `Traverse.stands_of_substitute`.
-/

set_option autoImplicit false

namespace MetesBounds

namespace Traverse

variable {t : Traverse}

/-- What a value stands for: what is bound under the name that it refers to, or, where it refers to
none, itself. -/
inductive Stands (t : Traverse) : Value → Value → Prop
  | bound {v b : Value} {name : String} (hn : t.referent? v = some name)
    (hb : t.symbols.get? (.named name) = some b) : Stands t v (t.refresh b)
  | plain {v : Value} (hn : t.referent? v = none) : Stands t v v

/-- What a field stands for: a row for the row of what its items stand for, any other memo for
itself, and any other value for what it stands for alone. -/
inductive FieldStands (t : Traverse) : Field → Value → Value → Prop
  | row {f : Field} {items items' : List Value} (h : List.Forall₂ t.Stands items items') :
    FieldStands t f (.row items) (.row items')
  | memo {v : Value} (hv : ∀ items, v ≠ .row items) : FieldStands t .memo v v
  | alone {f : Field} (hf : f ≠ .memo) {v w : Value} (hv : ∀ items, v ≠ .row items)
    (h : t.Stands v w) : FieldStands t f v w

/-- What is marked as no reference is left as it was. -/
theorem eq_of_marked {v u marker : Value} (h : v.marked marker = .ok u)
    (hu : ∀ name, u ≠ .reference name) : u = v := by
  cases v with
  | text s =>
    rw [Value.marked] at h
    obtain ⟨name?, -, h⟩ := bind_eq_ok.mp h
    cases name? with
    | some name => cases h; exact absurd rfl (hu name)
    | none => cases h; rfl
  | _ => cases h; rfl

theorem stands_of_resolve {v w : Value} (h : t.resolve v = .ok w) : t.Stands v w := by
  rw [resolve] at h
  obtain ⟨u, hu, hres⟩ := bind_eq_ok.mp h
  cases u with
  | reference name =>
    have hlook : t.lookup name = .ok w := hres
    rw [lookup] at hlook
    split at hlook
    · next b hb =>
      cases hlook
      exact .bound (by rw [referent?, hu]) hb
    · cases hlook
  | _ =>
    obtain rfl := eq_of_marked hu fun _ h => nomatch h
    cases hres
    exact .plain (by rw [referent?, hu])

theorem stands_of_resolveField {f : Field} {v w : Value} (h : t.resolveField f v = .ok w) :
    t.FieldStands f v w := by
  have alone (hv : ∀ items, v ≠ .row items)
      (hres : (if f = .memo then .ok v else t.resolve v) = .ok w) : t.FieldStands f v w := by
    by_cases hf : f = .memo
    · rw [if_pos hf] at hres
      cases hres
      subst hf
      exact .memo hv
    · rw [if_neg hf] at hres
      exact .alone hf hv (stands_of_resolve hres)
  cases v with
  | row items =>
    rw [resolveField] at h
    obtain ⟨items', hitems, h⟩ := bind_eq_ok.mp h
    cases h
    exact .row ((forall₂_of_mapM hitems).imp fun _ _ => stands_of_resolve)
  | _ => exact alone (fun _ h => nomatch h) h

/-- **A substitution leaves in every field what it stands for**, and nothing that has been looked up is
looked up again. -/
theorem stands_of_substitute {c c' : Call} (h : t.substitute c = .ok c') :
    c.Fieldwise t.FieldStands c' :=
  (Call.Fieldwise.of_mapFields h).mono fun _ _ _ hf => stands_of_resolveField hf

end Traverse

end MetesBounds
