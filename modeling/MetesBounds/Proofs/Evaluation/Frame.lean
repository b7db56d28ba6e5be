import MetesBounds.Instruments.Known
import MetesBounds.Proofs.Evaluation.Result
import MetesBounds.Proofs.Evaluation.Symbols
import MetesBounds.Proofs.Traverse.Bindings

/-!
# `Evaluation/Frame` — what a call may change, by its kind, and what it leaves alone

A traverse has seven parts, and every kind of call has its own that it may change. `Traverse.Framed`
says of all seven what a completed call makes of them: a call that leads to a point leaves the
symbols alone, a binding call everything but what is bound under its symbol, and a procedure call
everything but the last result, unless it is for one of the two procedures that empty the result.

From one step to the next this gives what holds over a run: the marker stays, only a reset takes a
name away (`Evaluator.bound?_mono`), and a call that leads to a point comes from where the traverse
stood.

Main statement: `Evaluator.framed_throughout`.
-/

set_option autoImplicit false

namespace MetesBounds

namespace Traverse

variable (t u : Traverse)

/-- From `t` to `u` a point has been added, and the traverse stands there. -/
structure Advanced (p : Point) (label : String) (index : Int) : Prop where
  points : u.points = t.points ++ [p]
  stations : u.stations = t.stations ++ [⟨label, p, index⟩]
  previous : u.previous = t.current
  current : u.current = some p
  lastResult : u.lastResult = .point p
  symbols : u.symbols = t.symbols
  marker : u.marker = t.marker

/-- From `t` to `u` a symbol has been bound to the last result. -/
structure HasNamed (s : Symbol) : Prop where
  own : ∀ r, s.same r = true → u.bound? r = some t.lastResult
  others : ∀ r, s.same r = false → u.bound? r = t.bound? r
  points : u.points = t.points
  stations : u.stations = t.stations
  previous : u.previous = t.previous
  current : u.current = t.current
  lastResult : u.lastResult = t.lastResult
  marker : u.marker = t.marker

/-- From `t` to `u` a value has become the last result. -/
structure Answered (v : Value) : Prop where
  lastResult : u.lastResult = v
  symbols : u.symbols = t.symbols
  points : u.points = t.points
  stations : u.stations = t.stations
  previous : u.previous = t.previous
  current : u.current = t.current
  marker : u.marker = t.marker

/-- From `t` to `u` the result has been emptied, which gives nothing. -/
structure Emptied : Prop where
  points : u.points = []
  stations : u.stations = []
  lastResult : u.lastResult = .nothing
  symbols : u.symbols = t.symbols
  previous : u.previous = t.previous
  current : u.current = t.current
  marker : u.marker = t.marker

/-- From `t` to `u` everything has been forgotten but the marker. -/
structure Forgotten : Prop where
  symbols : u.symbols = .empty
  points : u.points = []
  stations : u.stations = []
  previous : u.previous = none
  current : u.current = none
  lastResult : u.lastResult = .nothing
  marker : u.marker = t.marker

/-- What a completed call that gives `v` has made of `t`: each kind of call changes parts of its
own. -/
def Framed (c : Call) (index : Int) (v : Value) : Prop :=
  match c with
  | .point _ | .line _ | .curve _ =>
    ∃ label p, c.label = .ok label ∧ v = .point p ∧ Advanced t u p label index
  | .binding b => ∃ s, Symbol.ofValue b.name = .ok s ∧ v = u.refresh t.lastResult ∧ HasNamed t u s
  | .procedure _ => ∃ a, t.asked? (.call c) = some a ∧
      (a.name = .text Registry.clearName → v = .nothing ∧ Emptied t u) ∧
      (a.name = .text Registry.resetName → v = .nothing ∧ Forgotten t u) ∧
      (a.name ≠ .text Registry.clearName → a.name ≠ .text Registry.resetName → Answered t u v)

variable {t u}

theorem hasNamed_bind (t : Traverse) (s : Symbol) : t.HasNamed (t.bind s t.lastResult) s where
  own r hr := by rw [bound?_bind, if_pos hr]
  others r hr := by rw [bound?_bind, if_neg (by rw [hr]; exact Bool.false_ne_true)]
  points := rfl
  stations := rfl
  previous := rfl
  current := rfl
  lastResult := rfl
  marker := rfl

/-- A call that leads to a point and has done so. -/
theorem framed_of_advanced {c : Call} (hc : c.locates = true) {p : Point} {label : String}
    {index : Int} (hl : c.label = .ok label) (h : Advanced t u p label index) :
    Framed t u c index (.point p) := by
  cases c with
  | point | line | curve => exact ⟨label, p, hl, rfl, h⟩
  | procedure | binding => cases hc

/-- The call of a procedure, told by the procedure. -/
theorem framed_of_asked {c : Call} {a : ProcedureCall} (ha : t.asked? (.call c) = some a)
    {index : Int} {v : Value}
    (hclear : a.name = .text Registry.clearName → v = .nothing ∧ Emptied t u)
    (hreset : a.name = .text Registry.resetName → v = .nothing ∧ Forgotten t u)
    (hother : a.name ≠ .text Registry.clearName → a.name ≠ .text Registry.resetName →
      Answered t u v) : Framed t u c index v := by
  have hk := kind_of_asked? ha
  cases c with
  | procedure => exact ⟨a, ha, hclear, hreset, hother⟩
  | _ => cases hk

end Traverse

namespace Evaluator

open Traverse

variable {e : Evaluator} {t u : Traverse}

/-- No name is that of both procedures that empty the result. -/
theorem clearName_ne_resetName : Value.text Registry.clearName ≠ .text Registry.resetName :=
  fun h => absurd (Value.text.inj h) (by decide)

/-- **A completed step changes what the kind of its call may change.** -/
theorem Stepped.framed {item : Item} {index : Int} {v : Value} (h : Stepped t index item v u) :
    ∃ c, item = .call c ∧ Framed t u c index v := by
  cases h with
  | bound c s hs => exact ⟨.binding c, rfl, s, hs, rfl, hasNamed_bind t s⟩
  | found c hc label hl p =>
    exact ⟨c, rfl, framed_of_advanced hc hl ⟨rfl, rfl, rfl, rfl, rfl, rfl, rfl⟩⟩
  | reckoned c a ha hc hr x =>
    refine ⟨c, rfl, framed_of_asked ha (fun h => absurd h hc) (fun h => absurd h hr) ?_⟩
    intro _ _
    exact ⟨rfl, rfl, rfl, rfl, rfl, rfl, rfl⟩
  | cleared c a ha hn =>
    refine ⟨c, rfl, framed_of_asked ha ?_ ?_ fun h => absurd hn h⟩
    · intro _
      exact ⟨rfl, rfl, rfl, rfl, rfl, rfl, rfl, rfl⟩
    · intro hn'
      exact absurd (hn.symm.trans hn') clearName_ne_resetName
  | reset c a ha hn =>
    refine ⟨c, rfl, framed_of_asked ha ?_ ?_ fun _ h => absurd hn h⟩
    · intro hn'
      exact absurd (hn'.symm.trans hn) clearName_ne_resetName
    · intro _
      exact ⟨rfl, rfl, rfl, rfl, rfl, rfl, rfl, rfl⟩

/-! ## Over a run -/

variable {items : List Item}

/-- Past a position the state is what the step there has left, or what it was, where the run has
come to its end or failed before. -/
theorem before_succ_or (e : Evaluator) (t : Traverse) (items : List Item) (k : Nat) :
    e.before t items (k + 1) = e.before t items k ∨
      ∃ item, items[k]? = some item ∧
        e.before t items (k + 1) = (e.step (e.before t items k) item k).traverse := by
  cases hk : items[k]? with
  | none =>
    have hlen : items.length ≤ k := List.getElem?_eq_none_iff.mp hk
    left
    rw [before, before, List.take_of_length_le hlen, List.take_of_length_le (Nat.le_succ_of_le hlen)]
  | some item =>
    have hwalk := walk_take_succ (e := e) (t := t) hk
    cases hw : (e.walk 0 t (items.take k)).result with
    | error err =>
      left
      rw [before, before, traverse_evaluate, traverse_evaluate, hwalk, hw]
    | ok _ =>
      right
      refine ⟨item, rfl, ?_⟩
      rw [before, traverse_evaluate, hwalk, hw]
      simp only [Outcome.after, walk]
      split <;> rfl

/-- **What every step of a run preserves holds wherever it gets to**, from any position on. -/
theorem before_preserves {P : Traverse → Prop} {j k : Nat} (hjk : j ≤ k)
    (hs : ∀ i item, j ≤ i → i < k → items[i]? = some item → P (e.before t items i) →
      P (e.step (e.before t items i) item i).traverse)
    (hj : P (e.before t items j)) : P (e.before t items k) := by
  induction hjk with
  | refl => exact hj
  | @step k hjk ih =>
    have hk : P (e.before t items k) :=
      ih fun i item hi hik => hs i item hi (Nat.lt_succ_of_lt hik)
    rcases before_succ_or e t items k with h | ⟨item, hitem, h⟩
    · rw [h]
      exact hk
    · rw [h]
      exact hs k item hjk (Nat.lt_succ_self k) hitem hk

/-- A step with the standard procedures keeps the marker. -/
theorem marker_step (hr : e.procedures = .standard e.units) (t : Traverse) (item : Item)
    (index : Int) :
    (e.step t item index).traverse.marker = t.marker := by
  refine step_preserves (P := fun u => u.marker = t.marker) index rfl (fun _ => rfl) ?_
    (fun _ _ h => h) (fun _ _ _ h => h)
  intro a _
  rw [hr]
  have hcall := @Registry.standard_call e.units a.name a.args t
  generalize (Registry.standard e.units).call a.name a.args t = called at hcall
  cases hcall <;> rfl

/-- A step that does not come to a reset takes no name away. -/
theorem isSome_bound?_step (hr : e.procedures = .standard e.units) {item : Item} (index : Int)
    (hreset : ∀ a, t.asked? item = some a → a.name ≠ .text Registry.resetName) {s : Symbol}
    (hs : (t.bound? s).isSome = true) : ((e.step t item index).traverse.bound? s).isSome = true := by
  refine step_preserves (P := fun u => (u.bound? s).isSome = true) index hs ?_ ?_ (fun _ _ h => h)
    (fun _ _ _ h => h)
  · intro r
    rw [bound?_bind]
    split
    · rfl
    · exact hs
  · intro a ha
    rw [hr]
    have hcall := @Registry.standard_call e.units a.name a.args t
    generalize (Registry.standard e.units).call a.name a.args t = called at hcall
    cases hcall with
    | reset hn => exact absurd hn (hreset a ha)
    | _ => exact hs

/-- **Only a reset takes a name away**: from a position on to a later one, whatever is bound stays
bound to something, as long as nothing in between comes to a reset. -/
theorem bound?_mono (hr : e.procedures = .standard e.units) {j k : Nat} (hjk : j ≤ k)
    (hreset : ∀ i, j ≤ i → i < k → ¬e.ResetsAt t items i) {s : Symbol}
    (hs : ((e.before t items j).bound? s).isSome = true) :
    ((e.before t items k).bound? s).isSome = true := by
  refine before_preserves (P := fun u => (u.bound? s).isSome = true) hjk ?_ hs
  intro i item hi hik hitem h
  refine isSome_bound?_step hr i ?_ h
  intro a ha hn
  exact hreset i hi hik ⟨item, a, hitem, ha, hn⟩

/-- A call that leads to a point has come from where the traverse stood. -/
theorem previous_of_locatesAt (hr : e.procedures = .standard e.units) {k : Nat}
    (hk : locatesAt items k = true) (ha : e.Accepts t (items.take (k + 1))) :
    (e.before t items (k + 1)).previous = (e.before t items k).current := by
  have hlt : k < items.length := by
    refine Nat.lt_of_not_le fun hle => ?_
    rw [locatesAt, List.getElem?_eq_none hle] at hk
    cases hk
  obtain ⟨item, v, hitem, -, hstep⟩ := stepped_at hr hlt ha
  obtain ⟨c, rfl, hframed⟩ := hstep.framed
  rw [locatesAt_call hitem] at hk
  cases c with
  | point | line | curve =>
    obtain ⟨label, p, -, -, hadvanced⟩ := hframed
    exact hadvanced.previous
  | procedure | binding => cases hk

/-- **Every call keeps to the parts of a traverse that its kind may change**, from whatever state.
Over a run, then, the marker never changes, only a reset takes a name away, and a call that leads to
a point has come from where the traverse stood before it. -/
theorem framed_throughout (hr : e.procedures = .standard e.units) (t : Traverse) :
    (∀ item index s, (e.step t item index).result = .ok s →
      ∃ c, item = .call c ∧ Framed t (e.step t item index).traverse c index s.value) ∧
    (∀ items k, (e.before t items k).marker = t.marker) ∧
    (∀ items j k, j ≤ k → (∀ i, j ≤ i → i < k → ¬e.ResetsAt t items i) →
      ∀ s, ((e.before t items j).bound? s).isSome = true →
        ((e.before t items k).bound? s).isSome = true) ∧
    ∀ items k, locatesAt items k = true → e.Accepts t (items.take (k + 1)) →
      (e.before t items (k + 1)).previous = (e.before t items k).current := by
  refine ⟨?_, ?_, ?_, ?_⟩
  · intro item index s hs
    exact (stepped hr hs).framed
  · intro items k
    refine before_preserves (P := fun u => u.marker = t.marker) (Nat.zero_le k) ?_ ?_
    · intro i item _ _ _ h
      rw [marker_step hr, h]
    · rw [before_zero]
  · intro items j k hjk hreset s hs
    exact bound?_mono hr hjk hreset hs
  · intro items k hk ha
    exact previous_of_locatesAt hr hk ha

/-- A name that is bound twice under two spellings of one number, a clearing, and a point that comes
from the one before the clearing. -/
theorem framed_throughout_cleared :
    let e : Evaluator := .standard .known .usual
    let items : List Item := [.call (.point ⟨.ofInt 1, .ofInt 2, .text "1"⟩),
      .call (.binding ⟨.ofInt 1, .text ""⟩), .call (.binding ⟨.number (.truth true), .text ""⟩),
      .call (.procedure ⟨.text "clearDestinationPoints", .row [], .text ""⟩),
      .call (.point ⟨.ofInt 3, .ofInt 4, .text "2"⟩)]
    e.Accepts e.start (items.take 5) ∧
      (e.before e.start items 5).previous = (e.before e.start items 4).current ∧
      ((e.before e.start items 5).bound? (.other "1" "1" "1" false)).isSome = true := by
  intro e items
  have ha : e.Accepts e.start (items.take 5) := ⟨_, rfl⟩
  obtain ⟨-, -, hnames, hprevious⟩ := framed_throughout (e := e) rfl e.start
  refine ⟨ha, hprevious items 4 rfl ha, hnames items 2 5 (by decide) ?_ _ rfl⟩
  intro i hi hi5
  obtain rfl | rfl | rfl : i = 2 ∨ i = 3 ∨ i = 4 := by omega
  -- a binding call, the clearing and a point call: none of them comes to a reset
  · exact not_resetsAt (show items[2]? = some items[2] from rfl) fun a h => nomatch h
  · refine not_resetsAt (show items[3]? = some items[3] from rfl) fun a h => ?_
    cases h
    exact clearName_ne_resetName
  · exact not_resetsAt (show items[4]? = some items[4] from rfl) fun a h => nomatch h

end Evaluator

end MetesBounds
