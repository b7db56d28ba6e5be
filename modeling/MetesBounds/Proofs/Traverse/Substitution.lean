import MetesBounds.Proofs.Traverse.Fieldwise
import MetesBounds.Traverse

/-!
# `Traverse/Substitution` — which calls a substitution refuses, and over which name

A substitution works through the fields of a call, and through the items of a field that is a row,
until a reference stands for nothing. `Traverse.firstUnbound?` reads that reference off the call
and the table of symbols, without substituting anything. Where looking for the marker cannot itself
fail (`Value.Marks`), it tells all that there is to tell.

Main statement: `Traverse.substitute_eq_error` (a substitution fails just over the first unbound
name).
-/

set_option autoImplicit false

namespace MetesBounds

/-! ## The first failure in a row of steps -/

/-- Of steps taken one after the other, the first that fails does so with an error. -/
def FirstFails {α β : Type} (f : α → Except Error β) (err : Error) : List α → Prop
  | [] => False
  | a :: rest => f a = .error err ∨ ∃ b, f a = .ok b ∧ FirstFails f err rest

theorem mapM_eq_error {α β : Type} {f : α → Except Error β} {err : Error} :
    ∀ {l : List α}, l.mapM f = .error err ↔ FirstFails f err l
  | [] => by
    rw [List.mapM_nil]
    exact iff_of_false (fun h => by cases h) id
  | a :: l => by
    rw [List.mapM_cons, bind_eq_error]
    refine or_congr Iff.rfl (exists_congr fun b => and_congr Iff.rfl ?_)
    rw [bind_eq_error, mapM_eq_error]
    refine or_iff_left ?_
    rintro ⟨_, -, h⟩
    cases h

/-- Where a step fails just over the name that it gives away, the first name given away is what
the steps fail over. -/
theorem firstFails_iff {α β : Type} {f : α → Except Error β} {g : α → Option String} {err : Error}
    (h : ∀ a err, f a = .error err ↔ ∃ n, g a = some n ∧ err = .unresolved n) :
    ∀ {l : List α}, FirstFails f err l ↔ ∃ n, l.findSome? g = some n ∧ err = .unresolved n
  | [] => iff_of_false id fun ⟨_, h, _⟩ => by cases h
  | a :: l => by
    rw [FirstFails, firstFails_iff h, List.findSome?_cons]
    cases hg : g a with
    | some n =>
      have hf : f a = .error (.unresolved n) := (h a _).mpr ⟨n, hg, rfl⟩
      simp [hf, eq_comm]
    | none =>
      cases hf : f a with
      | ok b => simp
      | error err' =>
        obtain ⟨n, hn, -⟩ := (h a err').mp hf
        rw [hg] at hn
        cases hn

namespace Call

/-- Working on the fields of a call keeps its kind. -/
theorem mapFields_kind {f : Field → Value → Except Error Value} {c c' : Call}
    (h : c.mapFields f = .ok c') : c'.kind = c.kind :=
  (Fieldwise.of_mapFields h).kind.symm

/-- The memo is worked on like every other field. -/
theorem mapFields_memo {f : Field → Value → Except Error Value} {c c' : Call}
    (h : c.mapFields f = .ok c') : f .memo c.memo = .ok c'.memo :=
  (Fieldwise.of_mapFields h).memo

/-- Working on the fields of a call fails where it first fails in their order. -/
theorem mapFields_eq_error {f : Field → Value → Except Error Value} {c : Call} {err : Error} :
    c.mapFields f = .error err ↔ FirstFails (fun e => f e.1 e.2) err c.entries := by
  have hp : ∀ c' : Call, ((pure c' : Except Error Call) = .error err) = False :=
    fun _ => eq_false fun h => by cases h
  cases c <;> simp only [mapFields, bind_eq_error, hp, entries, FirstFails]

end Call

/-! ## Markers -/

namespace Value

/-- A marker that can be looked for in any text. -/
def Marks (marker : Value) : Prop := ∀ s, ∃ name?, markedName? marker s = .ok name?

theorem marks_text (start : String) : (text start).Marks := fun s => ⟨nameIn? start s, rfl⟩

theorem Marks.marked {marker : Value} (h : marker.Marks) (v : Value) :
    ∃ w, v.marked marker = .ok w := by
  cases v with
  | text s =>
    obtain ⟨name?, hs⟩ := h s
    cases name? with
    | none => exact ⟨.text s, by simp only [Value.marked, hs]; rfl⟩
    | some name => exact ⟨.reference name, by simp only [Value.marked, hs]; rfl⟩
  | _ => exact ⟨_, rfl⟩

end Value

namespace Traverse

/-! ## The first unbound name -/

/-- The name that a value refers to, where nothing is bound under it. -/
def unbound? (t : Traverse) (v : Value) : Option String :=
  (t.referent? v).filter fun name => (t.symbols.get? (.named name)).isNone

/-- Where references may stand in a field: in the items of a row, and in the value itself unless it
is a memo. -/
def places : Field → Value → List Value
  | _, .row items => items
  | .memo, _ => []
  | _, v => [v]

/-- The first name in the order of fields that a call refers to and that nothing is bound under. -/
def firstUnbound? (t : Traverse) (c : Call) : Option String :=
  c.entries.findSome? fun e => (places e.1 e.2).findSome? t.unbound?

theorem unbound?_eq_some {t : Traverse} {v : Value} {n : String} :
    t.unbound? v = some n ↔ t.referent? v = some n ∧ t.symbols.get? (.named n) = none := by
  simp [unbound?, Option.filter_eq_some_iff]

theorem resolve_eq_error {t : Traverse} (hm : t.marker.Marks) (v : Value) (err : Error) :
    t.resolve v = .error err ↔ ∃ n, t.unbound? v = some n ∧ err = .unresolved n := by
  obtain ⟨w, hw⟩ := hm.marked v
  simp only [unbound?_eq_some, referent?, resolve, hw]
  cases w with
  | reference name =>
    -- only here is the table asked
    change t.lookup name = .error err ↔ _
    rw [lookup]
    cases hs : t.symbols.get? (.named name) with
    | none =>
      constructor
      · rintro ⟨⟩; exact ⟨name, ⟨rfl, hs⟩, rfl⟩
      · rintro ⟨_, ⟨⟨⟩, -⟩, rfl⟩; rfl
    | some v =>
      constructor
      · rintro ⟨⟩
      · rintro ⟨_, ⟨⟨⟩, hn⟩, -⟩
        rw [hs] at hn
        cases hn
  | _ =>
    refine iff_of_false (fun h => by cases h) ?_
    rintro ⟨_, ⟨h, -⟩, -⟩
    cases h

theorem resolveField_eq_error {t : Traverse} (hm : t.marker.Marks) (f : Field) (v : Value)
    (err : Error) : t.resolveField f v = .error err ↔
      ∃ n, (places f v).findSome? t.unbound? = some n ∧ err = .unresolved n := by
  have alone : t.resolve v = .error err ↔
      ∃ n, ([v] : List Value).findSome? t.unbound? = some n ∧ err = .unresolved n := by
    rw [resolve_eq_error hm, List.findSome?_singleton]
  have memo : (Except.ok v : Except Error Value) = .error err ↔
      ∃ n, ([] : List Value).findSome? t.unbound? = some n ∧ err = .unresolved n := by
    refine iff_of_false (fun h => by cases h) ?_
    rintro ⟨_, h, -⟩
    cases h
  cases v with
  | row items =>
    -- a row is put together again once its items are resolved, and that cannot fail
    rw [resolveField, places, bind_eq_error, or_iff_left (by rintro ⟨_, -, h⟩; cases h),
      mapM_eq_error, firstFails_iff (resolve_eq_error hm)]
  | _ => cases f <;> first | exact alone | exact memo

/-- A memo that is text is kept, whether or not it begins like a reference. -/
theorem substitute_memo {t : Traverse} {c c' : Call} {memo : String} (h : t.substitute c = .ok c')
    (hm : c.memo = .text memo) : c'.memo = .text memo := by
  have hc : t.resolveField .memo c.memo = .ok c'.memo := Call.mapFields_memo h
  rw [hm] at hc
  exact (Except.ok.inj hc).symm

/-- **A substitution fails just over the first unbound name.** -/
theorem substitute_eq_error {t : Traverse} (hm : t.marker.Marks) {c : Call} {err : Error} :
    t.substitute c = .error err ↔ ∃ n, t.firstUnbound? c = some n ∧ err = .unresolved n := by
  rw [substitute, Call.mapFields_eq_error]
  exact firstFails_iff fun e err => resolveField_eq_error hm e.1 e.2 err

end Traverse

end MetesBounds
