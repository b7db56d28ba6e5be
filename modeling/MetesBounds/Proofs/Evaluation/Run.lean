import MetesBounds.Evaluation.Run
import MetesBounds.Proofs.Evaluation.Step

/-!
# `Evaluation/Run` — runs cut anywhere

A run is its steps and then one line in the log. `Evaluator.walk` is the steps alone, and only they
change the state; so a run can be cut at any position, and what stands before the cut is the run of
the items before it (`Evaluator.walk_append`). `Evaluator.before` is the state at a cut and
`Evaluator.valueAt` the value that the step there gives, both said of `Evaluator.evaluate` itself.

Main statements: `Evaluator.evaluate_eq_ok` and `Evaluator.walk_eq_error` (an evaluation
through its steps), `Evaluator.before_induction` and `Evaluator.runFrom_preserves` (what is carried
from one step to the next).
-/

set_option autoImplicit false

namespace MetesBounds

namespace Outcome

variable {α : Type}

/-- Two outcomes have the same result, or the same error, and leave the same state. -/
structure Agrees (o o' : Outcome α) : Prop where
  result : o.result = o'.result
  traverse : o.traverse = o'.traverse

namespace Agrees

variable {o o' o'' : Outcome α}

theorem refl (o : Outcome α) : o.Agrees o := ⟨rfl, rfl⟩

theorem symm (h : o.Agrees o') : o'.Agrees o := ⟨h.result.symm, h.traverse.symm⟩

theorem trans (h : o.Agrees o') (h' : o'.Agrees o'') : o.Agrees o'' :=
  ⟨h.result.trans h'.result, h.traverse.trans h'.traverse⟩

/-- What was logged before does not matter. -/
theorem after (h : o.Agrees o') (log log' : List Line) : (o.after log).Agrees (o'.after log') :=
  ⟨h.result, h.traverse⟩

end Agrees

end Outcome

namespace Evaluator

variable (e : Evaluator)

/-! ## The steps of a run -/

/-- The steps of a run without its end; `count` of the run's items have been before them. -/
def walk (count : Nat) (t : Traverse) : List Item → Outcome Unit
  | [] => ⟨.ok (), t, []⟩
  | item :: rest =>
    let o := e.step t item count
    match o.result with
    | .error err => ⟨.error err, o.traverse, o.log⟩
    | .ok _ => (walk (count + 1) o.traverse rest).after o.log

/-- A run without a trail is its steps and, where none has failed, its end. -/
theorem runFrom_none (items : List Item) (count : Nat) (t : Traverse) :
    (e.runFrom count t none items).outcome =
      match (e.walk count t items).result with
      | .error _ => e.walk count t items
      | .ok _ => (e.finish (e.walk count t items).traverse (count + items.length)).after
          (e.walk count t items).log := by
  induction items generalizing count t with
  | nil => rfl
  | cons item rest ih =>
    rw [runFrom, walk, auditedStep]
    dsimp only
    cases ho : (e.step t item count).result with
    | error err => rfl
    | ok s =>
      dsimp only
      rw [ih, Nat.add_right_comm, Nat.add_assoc, ← List.length_cons (a := item)]
      cases hw : (e.walk (count + 1) (e.step t item count).traverse rest).result with
      | error err => simp only [Outcome.after, hw]
      | ok u => simp only [Outcome.after, hw, List.append_assoc]

/-- The steps for two lists of items are those for the first and, where none has failed, those for
the second. -/
theorem walk_append (xs ys : List Item) (count : Nat) (t : Traverse) :
    e.walk count t (xs ++ ys) =
      match (e.walk count t xs).result with
      | .error _ => e.walk count t xs
      | .ok _ => (e.walk (count + xs.length) (e.walk count t xs).traverse ys).after
          (e.walk count t xs).log := by
  induction xs generalizing count t with
  | nil => rfl
  | cons item rest ih =>
    simp only [List.cons_append, walk]
    cases ho : (e.step t item count).result with
    | error err => rfl
    | ok s =>
      dsimp only
      rw [ih, List.length_cons, Nat.add_right_comm, ← Nat.add_assoc]
      cases hw : (e.walk (count + 1) (e.step t item count).traverse rest).result with
      | error err => simp only [Outcome.after, hw]
      | ok u => simp only [Outcome.after, hw, List.append_assoc]

variable {e} {t : Traverse} {items : List Item} {item : Item} {err : Error} {k : Nat}

theorem walk_cons_of_error {count : Nat} (h : (e.step t item count).result = .error err)
    (rest : List Item) : (e.walk count t (item :: rest)).result = .error err ∧
      (e.walk count t (item :: rest)).traverse = (e.step t item count).traverse := by
  simp only [walk, h, and_self]

theorem walk_cons_of_ok {count : Nat} {s : Step} (h : (e.step t item count).result = .ok s)
    (rest : List Item) : e.walk count t (item :: rest) =
      (e.walk (count + 1) (e.step t item count).traverse rest).after (e.step t item count).log := by
  simp only [walk, h]

/-- Steps that fail do so at some position, after all the steps before it have been completed. -/
theorem walk_eq_error {count : Nat} (h : (e.walk count t items).result = .error err) :
    ∃ k item, items[k]? = some item ∧
      (e.walk count t (items.take k)).result = .ok () ∧
      (e.step (e.walk count t (items.take k)).traverse item (count + k : Nat)).result =
        .error err := by
  induction items generalizing count t with
  | nil => cases h
  | cons item rest ih =>
    rw [walk] at h
    cases ho : (e.step t item count).result with
    | error err' =>
      simp only [ho] at h
      cases h
      exact ⟨0, item, rfl, rfl, ho⟩
    | ok s =>
      simp only [ho, Outcome.after] at h
      obtain ⟨k, item', hk, hw, hs⟩ := ih h
      refine ⟨k + 1, item', hk, ?_, ?_⟩
      · simp only [List.take_succ_cons, walk, ho, Outcome.after]
        exact hw
      · simp only [List.take_succ_cons, walk, ho, Outcome.after]
        rw [Nat.add_right_comm] at hs
        exact hs

/-! ## What an evaluation comes to -/

/-- Whether the evaluator can tell what it reports. -/
def Logs (e : Evaluator) : Prop := ∃ n, e.settings.logLevel = .number n

theorem note_of_logs (h : e.Logs) (level : Level) (message : String) :
    ∃ log, e.note level message = .ok log := by
  obtain ⟨n, hn⟩ := h
  exact ⟨_, by rw [note, Settings.reports, hn]; rfl⟩

theorem logs_of_note {level : Level} {message : String} {log : List Line}
    (h : e.note level message = .ok log) : e.Logs := by
  obtain ⟨b, hb, -⟩ := bind_eq_ok.mp h
  rw [Settings.reports] at hb
  split at hb
  · next n hn => exact ⟨n, hn⟩
  · cases hb

/-- Whether a call can be reported: it can be written, and the evaluator can tell what it
reports. -/
def Announces (e : Evaluator) (c : Call) : Prop := c.isOverlong = false ∧ e.Logs

theorem announce_of_overlong {c : Call} (h : c.isOverlong = true) (index : Int) :
    e.announce c index = .error .overlong := by
  rw [announce, Call.written, h]
  rfl

theorem announce_of_not_overlong {c : Call} (h : c.isOverlong = false) (index : Int) :
    e.announce c index = e.note .debug ("record " ++ toString index ++ ": " ++ c.shown) := by
  rw [announce, Call.written, h]
  rfl

theorem announces_of_announce {c : Call} {index : Int} {log : List Line}
    (h : e.announce c index = .ok log) : e.Announces c := by
  cases hlong : c.isOverlong with
  | true =>
    rw [announce_of_overlong hlong] at h
    cases h
  | false =>
    rw [announce_of_not_overlong hlong] at h
    exact ⟨hlong, logs_of_note h⟩

/-- Only a call that can be reported is completed. -/
theorem announces_of_step {c : Call} {index : Int} {s : Step}
    (h : (e.step t (.call c) index).result = .ok s) : e.Announces c := by
  rw [step] at h
  split at h
  · cases h
  · next log hlog => exact announces_of_announce hlog

/-- Only an evaluator that can tell what it reports completes a step. -/
theorem logs_of_step {index : Int} {s : Step} (h : (e.step t item index).result = .ok s) :
    e.Logs := by
  cases item with
  | other v => cases h
  | call c => exact (announces_of_step h).2

/-- What a step does is what completing its call does, where the call can be reported. -/
theorem step_of_announces {c : Call} (h : e.Announces c) (t : Traverse) (index : Int) :
    (e.step t (.call c) index).result = (e.complete t c index).result ∧
      (e.step t (.call c) index).traverse = (e.complete t c index).traverse := by
  obtain ⟨log, hlog⟩ := note_of_logs h.2 .debug ("record " ++ toString index ++ ": " ++ c.shown)
  rw [step, announce_of_not_overlong h.1, hlog]
  exact ⟨rfl, rfl⟩

/-- A call that cannot be written is not tried. -/
theorem step_of_overlong {c : Call} (h : c.isOverlong = true) (t : Traverse) (index : Int) :
    e.step t (.call c) index = .failed t .overlong := by
  rw [step, announce_of_overlong h]

/-- An evaluator that cannot tell what it reports says so of every line in the same way. -/
theorem note_of_not_logs (h : ¬e.Logs) :
    ∃ err, ∀ level message, e.note level message = .error err := by
  refine ⟨.noOrder ">=" "int" e.settings.logLevel.kindName, fun level message => ?_⟩
  rw [note, Settings.reports]
  split
  · next n hn => exact absurd ⟨n, hn⟩ h
  · rfl

/-- A call that cannot be reported is not tried. Over what it fails is decided by whether it can be
written. -/
theorem step_of_not_announces {c : Call} (h : ¬e.Announces c) :
    ∃ err, ∀ (t : Traverse) (c' : Call) index, c'.isOverlong = c.isOverlong →
      e.step t (.call c') index = .failed t err := by
  cases hlong : c.isOverlong with
  | true => exact ⟨.overlong, fun t c' index hc' => step_of_overlong hc' t index⟩
  | false =>
    obtain ⟨err, herr⟩ := note_of_not_logs fun hl => h ⟨hlong, hl⟩
    exact ⟨err, fun t c' index hc' => by rw [step, announce_of_not_overlong hc', herr]⟩

theorem finish_traverse (t : Traverse) (count : Nat) : (e.finish t count).traverse = t := by
  rw [finish]
  split <;> rfl

/-- The state that an evaluation leaves is that of its steps. -/
theorem traverse_evaluate (t : Traverse) (items : List Item) :
    (e.evaluate t items).traverse = (e.walk 0 t items).traverse := by
  rw [evaluate, resultOf, runFrom_none]
  dsimp only
  split
  · rfl
  · rw [Outcome.after, finish_traverse]

/-- **An evaluation succeeds just where its steps do** and the evaluator can tell what it reports,
and then it gives what the state holds. -/
theorem evaluate_eq_ok {r : Result} : (e.evaluate t items).result = .ok r ↔
    (e.walk 0 t items).result = .ok () ∧ e.Logs ∧ r = .ofTraverse (e.walk 0 t items).traverse := by
  rw [evaluate, resultOf, runFrom_none]
  cases hw : (e.walk 0 t items).result with
  | error err =>
    simp only [hw]
    constructor
    · intro h
      cases h
    · rintro ⟨h, -⟩
      cases h
  | ok u =>
    simp only [Outcome.after, finish, true_and]
    split
    · next log hlog =>
      have hl : e.Logs := logs_of_note hlog
      constructor
      · rintro ⟨⟩; exact ⟨hl, rfl⟩
      · rintro ⟨-, rfl⟩; rfl
    · next err hn =>
      constructor
      · rintro ⟨⟩
      · rintro ⟨hl, -⟩
        obtain ⟨log, hlog⟩ := note_of_logs hl .info _
        rw [hlog] at hn
        cases hn

/-- Steps that have failed decide the whole outcome, whatever items are left. -/
theorem evaluate_append_of_error (h : (e.walk 0 t items).result = .error err) (rest : List Item) :
    e.evaluate t (items ++ rest) = resultOf (e.walk 0 t items) := by
  have hw : e.walk 0 t (items ++ rest) = e.walk 0 t items := by rw [walk_append, h]
  rw [evaluate, runFrom_none, hw, h]

/-- Steps that have failed decide what their evaluation comes to. -/
theorem evaluate_of_walk_error (h : (e.walk 0 t items).result = .error err) :
    e.evaluate t items = resultOf (e.walk 0 t items) := by
  rw [← evaluate_append_of_error h [], List.append_nil]

/-- Where the evaluator can tell what it reports, an evaluation comes to what its steps come to: to
their failure, or to what the state then holds. -/
theorem result_evaluate (hl : e.Logs) (t : Traverse) (items : List Item) :
    (e.evaluate t items).result =
      (fun _ => Result.ofTraverse (e.evaluate t items).traverse) <$> (e.walk 0 t items).result := by
  rw [traverse_evaluate]
  cases hw : (e.walk 0 t items).result with
  | error err => rw [evaluate_of_walk_error hw, resultOf, hw]
  | ok _ => exact evaluate_eq_ok.mpr ⟨hw, hl, rfl⟩

/-! ## Cutting an evaluation -/

/-- Whether an evaluation of items on a state succeeds. -/
def Accepts (e : Evaluator) (t : Traverse) (items : List Item) : Prop :=
  ∃ r, (e.evaluate t items).result = .ok r

/-- The state just before the item at a position. -/
def before (e : Evaluator) (t : Traverse) (items : List Item) (k : Nat) : Traverse :=
  (e.evaluate t (items.take k)).traverse

/-- The value that the step for the item at a position gives. -/
def valueAt (e : Evaluator) (t : Traverse) (items : List Item) (k : Nat) : Option Value :=
  items[k]?.bind fun item =>
    match (e.step (e.before t items k) item k).result with
    | .ok s => some s.value
    | .error _ => none

theorem accepts_iff : e.Accepts t items ↔ (e.walk 0 t items).result = .ok () ∧ e.Logs := by
  simp only [Accepts, evaluate_eq_ok, exists_and_left, exists_eq, and_true]

/-- Behind items that an evaluation accepts, the steps go on from the state that it leaves. -/
theorem walk_append_of_accepts {xs : List Item} (hx : e.Accepts t xs) (ys : List Item) :
    (e.walk 0 t (xs ++ ys)).result =
        (e.walk xs.length (e.evaluate t xs).traverse ys).result ∧
      (e.walk 0 t (xs ++ ys)).traverse =
        (e.walk xs.length (e.evaluate t xs).traverse ys).traverse := by
  rw [walk_append, (accepts_iff.mp hx).1, traverse_evaluate, Nat.zero_add]
  exact ⟨rfl, rfl⟩

theorem before_zero : e.before t items 0 = t := by
  rw [before, traverse_evaluate, List.take_zero, walk]

/-- The steps up to a position and the one at it. -/
theorem walk_take_succ (hk : items[k]? = some item) :
    e.walk 0 t (items.take (k + 1)) =
      match (e.walk 0 t (items.take k)).result with
      | .error _ => e.walk 0 t (items.take k)
      | .ok _ => (e.walk k (e.before t items k) [item]).after (e.walk 0 t (items.take k)).log := by
  have hlen : (items.take k).length = k :=
    List.length_take_of_le (Nat.le_of_lt (List.getElem?_eq_some_iff.mp hk).1)
  rw [List.take_add_one, hk, Option.toList_some, walk_append, hlen, Nat.zero_add, before,
    traverse_evaluate]

/-- An evaluation gets past a position if it gets to it and the step there is completed. -/
theorem accepts_take_succ (hk : items[k]? = some item) :
    e.Accepts t (items.take (k + 1)) ↔ e.Accepts t (items.take k) ∧
      ∃ s, (e.step (e.before t items k) item k).result = .ok s := by
  rw [accepts_iff, accepts_iff, walk_take_succ hk]
  cases hw : (e.walk 0 t (items.take k)).result with
  | error err => simp [hw]
  | ok u =>
    simp only [Outcome.after, walk, true_and]
    cases hs : (e.step (e.before t items k) item k).result with
    | error err => simp
    | ok s => simp

/-- The state past a position is the one that the step there leaves. -/
theorem before_succ (ha : e.Accepts t (items.take k)) (hk : items[k]? = some item) :
    e.before t items (k + 1) = (e.step (e.before t items k) item k).traverse := by
  rw [before, traverse_evaluate, walk_take_succ hk, (accepts_iff.mp ha).1]
  simp only [Outcome.after, walk]
  split <;> rfl

/-- An evaluation that gets to a position gets to every position before it. -/
theorem accepts_take_of_le {j : Nat} (hj : j ≤ k) (ha : e.Accepts t (items.take k)) :
    e.Accepts t (items.take j) := by
  induction hj with
  | refl => exact ha
  | step hj ih =>
    refine ih ?_
    next k =>
    cases hk : items[k]? with
    | none =>
      -- past the end all starts are the same
      have hlen : items.length ≤ k := List.getElem?_eq_none_iff.mp hk
      rwa [List.take_of_length_le (Nat.le_succ_of_le hlen), ← List.take_of_length_le hlen] at ha
    | some item => exact ((accepts_take_succ hk).mp ha).1

theorem valueAt_eq {s : Step} (hk : items[k]? = some item)
    (hs : (e.step (e.before t items k) item k).result = .ok s) :
    e.valueAt t items k = some s.value := by
  rw [valueAt, hk, Option.bind_some, hs]

/-- A value that is given at a position is that of a completed step. -/
theorem step_of_valueAt {v : Value} (h : e.valueAt t items k = some v) :
    ∃ item s, items[k]? = some item ∧ (e.step (e.before t items k) item k).result = .ok s ∧
      s.value = v := by
  obtain ⟨item, hitem, hv⟩ := Option.bind_eq_some_iff.mp h
  split at hv
  · next s hs => cases hv; exact ⟨item, s, hitem, hs, rfl⟩
  · cases hv

/-- Only the item at a position decides which procedure is asked for there. -/
theorem not_asked_at {P : ProcedureCall → Prop} (hk : items[k]? = some item)
    (h : ∀ a, (e.before t items k).asked? item = some a → ¬P a) :
    ¬∃ item a, items[k]? = some item ∧ (e.before t items k).asked? item = some a ∧ P a := by
  rintro ⟨item', a, hk', ha, hp⟩
  rw [hk] at hk'
  cases hk'
  exact h a ha hp

/-- What has been done at a position that an evaluation gets past. -/
theorem stepped_at (hr : e.procedures = .standard e.units) (hk : k < items.length)
    (ha : e.Accepts t (items.take (k + 1))) :
    ∃ item v, items[k]? = some item ∧ e.valueAt t items k = some v ∧
      Stepped (e.before t items k) k item v (e.before t items (k + 1)) := by
  have hitem : items[k]? = some items[k] := List.getElem?_eq_getElem hk
  obtain ⟨hak, s, hstep⟩ := (accepts_take_succ hitem).mp ha
  rw [before_succ hak hitem]
  exact ⟨items[k], s.value, hitem, valueAt_eq hitem hstep, stepped hr hstep⟩

/-- **What the standard procedures' steps carry from one position to the next holds wherever an
evaluation gets to.** -/
theorem before_induction (hr : e.procedures = .standard e.units) {P : Nat → Traverse → Prop}
    (h₀ : P 0 t)
    (hs : ∀ k item v u, items[k]? = some item → e.valueAt t items k = some v →
      P k (e.before t items k) → Stepped (e.before t items k) k item v u → P (k + 1) u)
    (hk : k ≤ items.length) (ha : e.Accepts t (items.take k)) : P k (e.before t items k) := by
  induction k with
  | zero => rw [before_zero]; exact h₀
  | succ k ih =>
    obtain ⟨item, v, hitem, hv, hstep⟩ := stepped_at hr hk ha
    have hbefore := ih (Nat.le_of_succ_le hk) (accepts_take_of_le (Nat.le_succ k) ha)
    exact hs k item v _ hitem hv hbefore hstep

/-! ## Positions since something held -/

/-- The positions from `s` up to `k` are those since something has last held; where it has not held
at all, they are all positions before `k`. -/
def SinceLast (P : Nat → Prop) (k s : Nat) : Prop :=
  s ≤ k ∧ (s = 0 ∨ P (s - 1)) ∧ ∀ i, s ≤ i → i < k → ¬P i

theorem sinceLast_zero (P : Nat → Prop) : SinceLast P 0 0 :=
  ⟨Nat.le_refl 0, .inl rfl, fun i _ hi => absurd hi (Nat.not_lt_zero i)⟩

/-- Where it does not hold, the positions go on from the same start. -/
theorem SinceLast.succ {P : Nat → Prop} {s : Nat} (h : SinceLast P k s) (hk : ¬P k) :
    SinceLast P (k + 1) s := by
  obtain ⟨hs, hstart, hbetween⟩ := h
  refine ⟨Nat.le_succ_of_le hs, hstart, fun i hi hik => ?_⟩
  rcases Nat.lt_succ_iff_lt_or_eq.mp hik with hik | rfl
  · exact hbetween i hi hik
  · exact hk

/-- Where it holds, they start anew behind it. -/
theorem SinceLast.of_holds {P : Nat → Prop} (hk : P k) : SinceLast P (k + 1) (k + 1) :=
  ⟨Nat.le_refl _, .inr hk, fun _ hi hik => absurd hi (Nat.not_le_of_lt hik)⟩

/-! ## Runs with any procedures -/

/-- Writing a step to a trail does not change what it does to the state. -/
theorem traverse_auditedStep (t : Traverse) (trail : Option Trail) (item : Item) (index : Int) :
    (e.auditedStep t trail item index).outcome.traverse = (e.step t item index).traverse := by
  rw [auditedStep]
  dsimp only
  split
  · rfl
  · split
    · split
      · rfl
      · split <;> rfl
    · rfl

/-- **What every step preserves a run preserves**, with a trail or without one, and whether or not
it comes to its end. -/
theorem runFrom_preserves {P : Traverse → Prop}
    (hs : ∀ t item index, P t → P (e.step t item index).traverse) (items : List Item) (count : Nat)
    {t : Traverse} (ht : P t) (trail : Option Trail) :
    P (e.runFrom count t trail items).outcome.traverse := by
  induction items generalizing count t trail with
  | nil => rw [runFrom, finish_traverse]; exact ht
  | cons item rest ih =>
    have hu : P (e.auditedStep t trail item count).outcome.traverse := by
      rw [traverse_auditedStep]
      exact hs t item count ht
    rw [runFrom]
    dsimp only
    split
    · exact hu
    · exact ih _ hu _

end Evaluator

end MetesBounds
