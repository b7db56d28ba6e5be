import MetesBounds.Proofs.Calculation.Measures
import MetesBounds.Proofs.Calculation.Overlong
import MetesBounds.Proofs.Evaluation.Deed
import MetesBounds.Proofs.Evaluation.Failure
import MetesBounds.Proofs.Trail.Counts
import MetesBounds.Proofs.Trail.Runs

/-!
# `Evaluation/Audit` — the trail of an evaluation tells what has happened

An evaluation with a trail keeps two books: the state, to which every step adds, and the run of the
trail, in which every completed step is noted afterwards. They agree for each evaluation, whether or
not it comes to its end. `Evaluator.Tells` says what one entry has to do with the step for its item,
said of the evaluation without a trail, and `Evaluator.Noted` what a whole run has to do with the
items up to a position. The latter is carried from one position to the next, inside the trail's own
invariant (`Trail.Open`).

To note a step its value has to be written down, so a step whose value cannot be written ends an
evaluation with a trail, though it has been completed. `Evaluator.Completes` says where an
evaluation with a trail ends and what it comes to there.

Main statements: `Evaluator.runFrom_completes` (what noting a step carries from one position to the
next holds where the evaluation ends) and `Evaluator.audit_tells_evaluation`.
-/

set_option autoImplicit false

namespace MetesBounds

/-- What is done adds a point to the result just where it is said to. -/
theorem Deed.produced_iff {d : Deed} {b : Bool} (hd : d.result = .ok b) (index : Int)
    (t : Traverse) : b = true ↔ ∃ p, (d.apply index t).points = t.points ++ [p] := by
  cases d with
  | refuse => cases hd
  | drop => cases hd
  | place p label =>
    cases hd
    exact iff_of_true rfl ⟨p, rfl⟩
  | _ => cases hd; simp [Deed.apply]

namespace Evaluator

variable {e : Evaluator} {t : Traverse} {items : List Item} {k : Nat}

/-! ## Steps with a trail -/

section Steps

variable {item : Item} {count : Nat}

/-- A step that fails ends a run with its error, and nothing is noted. -/
theorem runFrom_cons_of_error {err : Error} (h : (e.step t item count).result = .error err)
    (trail : Option Trail) (rest : List Item) :
    e.runFrom count t trail (item :: rest) =
      ⟨⟨.error err, (e.step t item count).traverse, (e.step t item count).log⟩, trail⟩ := by
  simp only [runFrom, auditedStep, h]

/-- A step that is completed is that of a call. -/
theorem exists_call_of_step {index : Int} {s : Step} (h : (e.step t item index).result = .ok s) :
    ∃ c, item = .call c := by
  cases item with
  | other v => cases h
  | call c => exact ⟨c, rfl⟩

/-- A call whose memo is text has a label. -/
theorem exists_label {c : Call} (h : Item.TextMemo (.call c)) : ∃ label, c.label = .ok label := by
  obtain ⟨memo, hmemo⟩ := h
  exact ⟨c.kind.tag ++ memo, by rw [Call.label, hmemo]; rfl⟩

/-- A completed step whose value cannot be written ends a run with a trail, and nothing is noted. -/
theorem runFrom_cons_of_unwritten {c : Call} {s : Step} {label : String} {err : Error}
    (h : (e.step t (.call c) count).result = .ok s) (hl : c.label = .ok label)
    (hv : s.value.written = .error err) (trail : Trail) (rest : List Item) :
    e.runFrom count t (some trail) (.call c :: rest) =
      ⟨⟨.error err, (e.step t (.call c) count).traverse, (e.step t (.call c) count).log⟩,
        some trail⟩ := by
  simp only [runFrom, auditedStep, h, hl, hv]

/-- A completed step whose value can be written leaves a run to the other items, with the step noted
in the trail. -/
theorem runFrom_cons_of_ok {c : Call} {s : Step} {label : String}
    (h : (e.step t (.call c) count).result = .ok s) (hl : c.label = .ok label)
    (hv : s.value.isOverlong = false) (trail : Trail) (rest : List Item) :
    let run := e.runFrom count t (some trail) (.call c :: rest)
    let left := e.runFrom (count + 1) (e.step t (.call c) count).traverse
      (some (trail.record count label c.kind.tag s.value.shown s.producedPoint).1) rest
    run.trail = left.trail ∧ (resultOf run.outcome).Agrees (resultOf left.outcome) := by
  have hshown : s.value.written = .ok s.value.shown := by
    rw [Value.written, if_neg (Bool.eq_false_iff.mp hv)]
  simp only [runFrom, auditedStep, h, hl, hshown, true_and]
  exact ⟨rfl, rfl⟩

end Steps

/-! ## Where a run with a trail ends -/

/-- Over what the item at a position cannot be noted: its step fails, or the value that the step
gives cannot be written. -/
def FailsNoting (e : Evaluator) (t : Traverse) (items : List Item) (k : Nat) (item : Item)
    (err : Error) : Prop :=
  (e.step (e.before t items k) item k).result = .error err ∨
    ∃ s, (e.step (e.before t items k) item k).result = .ok s ∧ s.value.written = .error err

/-- An evaluation with a trail completes the items before a position, and comes to an outcome. -/
structure Completes (e : Evaluator) (t : Traverse) (items : List Item) (k : Nat)
    (o : Outcome Result) : Prop where
  completed : ∀ j < k, ∃ v, e.valueAt t items j = some v ∧ v.isOverlong = false
  /-- If there is an item at the position, it is the one that the evaluation fails over. -/
  failed : ∀ item, items[k]? = some item → ∃ err, e.FailsNoting t items k item err ∧
    o.result = .error err ∧ o.traverse = (e.step (e.before t items k) item k).traverse
  /-- If there is none, the evaluation comes to what it comes to without a trail. -/
  ended : items[k]? = none → o.Agrees (e.evaluate t items)

theorem Completes.congr {o o' : Outcome Result} (h : e.Completes t items k o) (ho : o'.Agrees o) :
    e.Completes t items k o' where
  completed := h.completed
  failed item hk := by
    obtain ⟨err, herr, hres, htrav⟩ := h.failed item hk
    exact ⟨err, herr, ho.result.trans hres, ho.traverse.trans htrav⟩
  ended hk := ho.trans (h.ended hk)

/-- An evaluation with a trail that succeeds has completed all items. -/
theorem Completes.eq_length {o : Outcome Result} {r : Result} (h : e.Completes t items k o)
    (hr : o.result = .ok r) : k = items.length := by
  refine Nat.le_antisymm (Nat.le_of_not_lt fun hlt => ?_) (Nat.le_of_not_lt fun hlt => ?_)
  · obtain ⟨v, hv, -⟩ := h.completed items.length hlt
    simp [valueAt] at hv
  · obtain ⟨err, -, herr, -⟩ := h.failed _ (List.getElem?_eq_getElem hlt)
    rw [hr] at herr
    cases herr

/-- All that is relied on of what is noted: it is carried past every step that is completed and
whose value can be written. -/
def NotesOn (e : Evaluator) (t : Traverse) (items : List Item) (P : Nat → Trail → Prop) : Prop :=
  ∀ k c s label trail, items[k]? = some (.call c) → e.Accepts t (items.take k) →
    (e.step (e.before t items k) (.call c) k).result = .ok s → c.label = .ok label →
    P k trail → P (k + 1) (trail.record k label c.kind.tag s.value.shown s.producedPoint).1

/-- From a position that it gets to, an evaluation with a trail goes on to the one where it ends. -/
theorem runFrom_completes_from (hm : ∀ item ∈ items, item.TextMemo) {P : Nat → Trail → Prop}
    (hs : e.NotesOn t items P) {trail : Trail} (hk : k ≤ items.length)
    (hv : ∀ j < k, ∃ v, e.valueAt t items j = some v ∧ v.isOverlong = false) (hp : P k trail) :
    let run := e.runFrom k (e.before t items k) (some trail) (items.drop k)
    ∃ m left, e.Completes t items m (resultOf run.outcome) ∧ P m left ∧ run.trail = some left := by
  induction hrest : items.drop k generalizing k trail with
  | nil =>
    have hlen : k = items.length := Nat.le_antisymm hk (List.drop_eq_nil_iff.mp hrest)
    refine ⟨k, trail, ⟨hv, fun item hitem => ?_, fun _ => ?_⟩, hp, rfl⟩
    · rw [List.getElem?_eq_none (Nat.le_of_eq hlen.symm)] at hitem
      cases hitem
    · have hw := walk_of_valueAt fun j hj => (hv j hj).imp fun _ h => h.1
      rw [hlen, List.take_length] at hw
      rw [before, hlen, List.take_length, traverse_evaluate, evaluate, runFrom_none, hw, runFrom,
        Nat.zero_add]
      exact ⟨rfl, rfl⟩
  | cons item rest ih =>
    have hitem : items[k]? = some item := by rw [← List.head?_drop, hrest]; rfl
    have hdrop : items.drop (k + 1) = rest := by rw [← List.tail_drop, hrest]; rfl
    -- at an item that is not noted the run ends
    have hends {o : Outcome Unit} {err : Error} (herr : e.FailsNoting t items k item err)
        (hres : o.result = .error err)
        (htrav : o.traverse = (e.step (e.before t items k) item k).traverse) :
        e.Completes t items k (resultOf o) := by
      refine ⟨hv, fun item' hitem' => ?_, fun hnone => ?_⟩
      · rw [hitem] at hitem'
        cases hitem'
        exact ⟨err, herr, by rw [resultOf, hres]; rfl, htrav⟩
      · rw [hitem] at hnone
        cases hnone
    cases hstep : (e.step (e.before t items k) item k).result with
    | error err =>
      rw [runFrom_cons_of_error hstep]
      exact ⟨k, trail, hends (.inl hstep) rfl rfl, hp, rfl⟩
    | ok s =>
      obtain ⟨c, rfl⟩ := exists_call_of_step hstep
      obtain ⟨label, hlabel⟩ := exists_label (hm _ (List.mem_of_getElem? hitem))
      cases hlong : s.value.isOverlong with
      | true =>
        have hunwritten : s.value.written = .error .overlong := by
          rw [Value.written, if_pos hlong]
        rw [runFrom_cons_of_unwritten hstep hlabel hunwritten]
        exact ⟨k, trail, hends (.inr ⟨s, hstep, hunwritten⟩) rfl rfl, hp, rfl⟩
      | false =>
        have hw := walk_of_valueAt fun j hj => (hv j hj).imp fun _ h => h.1
        have ha : e.Accepts t (items.take k) := accepts_iff.mpr ⟨hw, logs_of_step hstep⟩
        have hv' : ∀ j < k + 1, ∃ v, e.valueAt t items j = some v ∧ v.isOverlong = false := by
          intro j hj
          rcases Nat.lt_succ_iff_lt_or_eq.mp hj with hj | rfl
          · exact hv j hj
          · exact ⟨s.value, valueAt_eq hitem hstep, hlong⟩
        have hnext := hs _ _ _ _ _ hitem ha hstep hlabel hp
        obtain ⟨htrail, hagrees⟩ := runFrom_cons_of_ok hstep hlabel hlong trail rest
        obtain ⟨m, left, hcompletes, hleft, hrun⟩ :=
          ih (List.getElem?_eq_some_iff.mp hitem).1 hv' hnext hdrop
        rw [before_succ ha hitem] at hcompletes hrun
        exact ⟨m, left, hcompletes.congr hagrees, hleft, htrail.trans hrun⟩

/-- **What noting a step carries from one position to the next holds where the evaluation ends.** -/
theorem runFrom_completes (hm : ∀ item ∈ items, item.TextMemo) {P : Nat → Trail → Prop}
    (hs : e.NotesOn t items P) (trail : Trail) (hp : P 0 trail) :
    let run := e.runFrom 0 t (some trail) items
    ∃ k left, e.Completes t items k (resultOf run.outcome) ∧ P k left ∧ run.trail = some left := by
  have hnone : ∀ j < 0, ∃ v, e.valueAt t items j = some v ∧ v.isOverlong = false :=
    fun j hj => absurd hj (Nat.not_lt_zero j)
  have hrun := runFrom_completes_from hm hs (Nat.zero_le _) hnone hp
  rw [before_zero, List.drop_zero] at hrun
  exact hrun

/-! ## What is noted of a run -/

/-- An entry of a trail tells what the step for the item at a position has done. -/
structure Tells (e : Evaluator) (t : Traverse) (items : List Item) (i : Nat) (s : AuditStep) :
    Prop where
  index : s.index = i
  call : ∃ c, items[i]? = some (.call c) ∧ c.label = .ok s.label ∧ s.kind = c.kind.tag
  result : ∃ v, e.valueAt t items i = some v ∧ s.result = v.shown
  /-- It tells of a point just where the step has added one to the result. -/
  producedPoint : s.producedPoint = true ↔
    ∃ p, (e.before t items (i + 1)).points = (e.before t items i).points ++ [p]
  /-- Binding a point is not finding one. -/
  binding : ∀ c, items[i]? = some (.call (.binding c)) → s.producedPoint = false

/-- The entries of a run tell of the items up to a position. -/
structure Noted (e : Evaluator) (t : Traverse) (items : List Item) (k : Nat) (r : AuditRun) :
    Prop where
  length : r.steps.length = k
  tells : ∀ i s, r.steps[i]? = some s → e.Tells t items i s
  counted : r.Counted
  error : r.error = none

theorem noted_entered (id configHash time : String) :
    e.Noted t items 0 (.entered id configHash time) where
  length := rfl
  tells i s h := by cases h
  counted := AuditRun.counted_entered ..
  error := rfl

/-- One more entry tells of one more item. -/
theorem Noted.add {r : AuditRun} (h : e.Noted t items k r) {s : AuditStep}
    (hs : e.Tells t items k s) : e.Noted t items (k + 1) (r.add s) where
  length := by rw [AuditRun.add, List.length_append, List.length_singleton, h.length]
  tells i s' hi := by
    rw [AuditRun.add, List.getElem?_append] at hi
    split at hi
    · exact h.tells i s' hi
    · next hlt =>
      obtain ⟨hi', rfl⟩ := List.getElem?_eq_some_iff.mp hi
      obtain rfl : i = k := by
        have hlen := h.length
        simp only [List.length_singleton] at hi'
        omega
      simpa using hs
  counted := h.counted.add s
  error := h.error

/-- A binding call leaves the points as they are. -/
theorem Stepped.points_of_binding {b : BindingCall} {index : Int} {v : Value} {u : Traverse}
    (h : Stepped t index (.call (.binding b)) v u) : u.points = t.points := by
  cases h with
  | bound => rfl
  | found c hc => cases hc
  | reckoned c a ha => cases Traverse.kind_of_asked? ha
  | cleared c a ha => cases Traverse.kind_of_asked? ha
  | reset c a ha => cases Traverse.kind_of_asked? ha

/-- **What is noted of a completed step tells of it.** -/
theorem tells_of_step (hr : e.procedures = .standard e.units) {c : Call} {s : Step} {label : String}
    (hk : items[k]? = some (.call c)) (ha : e.Accepts t (items.take k))
    (hs : (e.step (e.before t items k) (.call c) k).result = .ok s) (hl : c.label = .ok label)
    (time : String) :
    e.Tells t items k ⟨time, k, label, c.kind.tag, s.value.shown, s.producedPoint⟩ := by
  obtain ⟨d, hd⟩ := exists_does_self hr (e.before t items k) (.call c) k
  have hresult : d.result = .ok s.producedPoint := by rw [← hd.result, hs]; rfl
  have hproduced := Deed.produced_iff hresult k (e.before t items k)
  rw [← hd.traverse, ← before_succ ha hk] at hproduced
  refine ⟨rfl, ⟨c, hk, hl, rfl⟩, ⟨s.value, valueAt_eq hk hs, rfl⟩, hproduced, fun b hb => ?_⟩
  rw [hk] at hb
  cases hb
  refine Bool.eq_false_iff.mpr fun hpoint => ?_
  obtain ⟨p, hp⟩ := hproduced.mp hpoint
  have hstep := stepped hr hs
  rw [← before_succ ha hk] at hstep
  rw [hstep.points_of_binding] at hp
  simp at hp

/-- Inside a run of a trail, what is noted tells of the items so far. -/
theorem notesOn_noted (hr : e.procedures = .standard e.units) (base : Trail) (id : String) :
    e.NotesOn t items fun k trail => ∃ r, e.Noted t items k r ∧ base.Open id r trail := by
  intro k c s label trail hk ha hs hl
  rintro ⟨r, hnoted, hopen⟩
  exact ⟨_, hnoted.add (tells_of_step hr hk ha hs hl base.clock), hopen.record ..⟩

/-! ## Entering and ending -/

/-- Settings that cannot be written have no fingerprint. -/
theorem configHashOf_of_overlong {s : Settings} (h : s.toValue.isOverlong = true) :
    Trail.configHashOf s.toValue = .error .overlong := by
  rw [Trail.configHashOf, fingerprint, h]
  rfl

theorem configHashOf_of_not_overlong {s : Settings} (h : s.toValue.isOverlong = false) :
    ∃ hash, Trail.configHashOf s.toValue = .ok hash := by
  rw [Trail.configHashOf, fingerprint, h]
  exact ⟨_, rfl⟩

/-- Settings that cannot be written end an evaluation with a trail before it has begun. -/
theorem evaluateAudited_of_overlong (h : e.settings.toValue.isOverlong = true) (t : Traverse)
    (trail : Trail) (id : String) (items : List Item) :
    e.evaluateAudited t trail id items = (.failed t .overlong, trail) := by
  rw [evaluateAudited, configHashOf_of_overlong h]

/-- An evaluation with a trail comes to what its items come to behind entering a run. -/
theorem agrees_evaluateAudited {hash : String}
    (h : Trail.configHashOf e.settings.toValue = .ok hash) (t : Traverse) (trail : Trail)
    (id : String) (items : List Item) :
    (e.evaluateAudited t trail id items).1.Agrees
      (resultOf (e.runFrom 0 t (some (trail.enter id hash).1) items).outcome) := by
  rw [evaluateAudited, h]
  exact ⟨rfl, rfl⟩

/-- An evaluation with a trail ends the run that it has entered, with an error if it has failed. -/
theorem trail_evaluateAudited {hash : String}
    (h : Trail.configHashOf e.settings.toValue = .ok hash) (t : Traverse) (trail : Trail)
    (id : String) (items : List Item) {left : Trail}
    (hrun : (e.runFrom 0 t (some (trail.enter id hash).1) items).trail = some left) :
    (e.evaluateAudited t trail id items).2 =
      match (e.evaluateAudited t trail id items).1.result with
      | .ok _ => (left.exit trail.runs.length).1
      | .error err => (left.fail trail.runs.length err.recorded).1 := by
  rw [evaluateAudited, h]
  dsimp only [Trail.enter, evaluateEntered] at hrun ⊢
  simp only [hrun, Option.getD_some, resultOf, Outcome.after]
  split <;> next hres => rw [hres]; rfl

/-- A run of a trail tells of the items up to a position, entry by entry and in its numbers. -/
structure Reports (e : Evaluator) (t : Traverse) (items : List Item) (k : Nat) (r : AuditRun) :
    Prop where
  length : r.steps.length = k
  tells : ∀ i s, r.steps[i]? = some s → e.Tells t items i s
  recordCount : r.recordCount = k
  pointCount : r.pointCount = r.steps.countP AuditStep.producedPoint
  /-- The counts of its summary add up. -/
  total : r.kindCounts.total = k
  kindCounts : ∀ kind, r.kindCounts.get? kind =
    if r.steps.countP (·.kind == kind) = 0 then none
    else some (r.steps.countP (·.kind == kind))

theorem Noted.reports {r : AuditRun} (h : e.Noted t items k r) (endTime error : Option String) :
    e.Reports t items k { r with endTime, error } where
  length := h.length
  tells := h.tells
  recordCount := h.counted.recordCount.trans h.length
  pointCount := h.counted.pointCount
  total := (AuditRun.total_kindCounts _).trans h.length
  kindCounts := AuditRun.get?_kindCounts _

/-- **The trail of an evaluation tells what has happened.** Settings that cannot be written end an
evaluation with a trail before it has begun, and the trail stays as it is. With any other settings
and with the standard procedures an evaluation completes the items up to some position, all of them
if it succeeds, whatever trail it is kept in, and the run that goes by its name reports just those.
The run has an error just where the evaluation fails, and it is that error. Behind it no run is
current, and all runs that go by other names are as they were. -/
theorem audit_tells_evaluation (hr : e.procedures = .standard e.units) {trail : Trail}
    (ht : trail.Made) (t : Traverse) (id : String) {items : List Item}
    (hm : ∀ item ∈ items, item.TextMemo) :
    let audited := e.evaluateAudited t trail id items
    (e.settings.toValue.isOverlong = true → audited = (.failed t .overlong, trail)) ∧
    (e.settings.toValue.isOverlong = false →
      ∃ k r, e.Completes t items k audited.1 ∧ audited.2.run? id = some r ∧
        e.Reports t items k r ∧
        (∀ result, audited.1.result = .ok result → k = items.length ∧ r.error = none) ∧
        (∀ err, audited.1.result = .error err → r.error = some err.recorded) ∧
        audited.2.current = none ∧ ∀ id', id' ≠ id → audited.2.run? id' = trail.run? id') := by
  intro audited
  refine ⟨fun hs => evaluateAudited_of_overlong hs t trail id items, fun hs => ?_⟩
  obtain ⟨hash, hhash⟩ := configHashOf_of_not_overlong hs
  obtain ⟨k, left, hk, ⟨r, hnoted, hleft⟩, hrun⟩ :=
    runFrom_completes hm (notesOn_noted hr trail id) (trail.enter id hash).1
      ⟨_, noted_entered (e := e) (t := t) .., trail.open_enter id hash⟩
  have hcompletes := hk.congr (agrees_evaluateAudited hhash t trail id items)
  have htrail := trail_evaluateAudited hhash t trail id items hrun
  cases hres : audited.1.result with
  | ok result =>
    simp only [audited, hres] at htrail
    have hended := hleft.ended_exit ht
    rw [← htrail] at hended
    refine ⟨k, _, hcompletes, hended.run?, hnoted.reports _ _, ?_, ?_, hended.current, hended.other⟩
    · exact fun _ _ => ⟨hcompletes.eq_length hres, hnoted.error⟩
    · exact fun err h => nomatch h
  | error err =>
    simp only [audited, hres] at htrail
    have hended := hleft.ended_fail ht err.recorded
    rw [← htrail] at hended
    refine ⟨k, _, hcompletes, hended.run?, hnoted.reports _ _, ?_, ?_, hended.current, hended.other⟩
    · exact fun _ h => nomatch h
    · rintro _ ⟨⟩
      rfl

/-- A point, and a line that walks on an unbound bearing. -/
theorem audit_tells_evaluation_unbound :
    let e : Evaluator := .standard .known .usual
    let items : List Item := [.call (.point ⟨.ofInt 1, .ofInt 2, .text "1"⟩),
      .call (.line ⟨.reference "b", .ofInt 3, .text "TRUE", .text ""⟩)]
    let trail := Trail.empty "noon"
    let audited := e.evaluateAudited e.start trail "survey" items
    trail.Made ∧ (∀ item ∈ items, item.TextMemo) ∧ e.settings.toValue.isOverlong = false ∧
      ∃ k r, e.Completes e.start items k audited.1 ∧ audited.2.run? "survey" = some r ∧
        e.Reports e.start items k r ∧ r.error = some (Error.unresolved "b").recorded := by
  intro e items trail audited
  have hm : ∀ item ∈ items, item.TextMemo :=
    List.forall_mem_cons.mpr ⟨⟨"1", rfl⟩, List.forall_mem_singleton.mpr ⟨"", rfl⟩⟩
  have hs : e.settings.toValue.isOverlong = false := rfl
  obtain ⟨k, r, hk, hrun, hreports, -, herror, -⟩ :=
    (audit_tells_evaluation (e := e) rfl (.empty "noon") e.start "survey" hm).2 hs
  exact ⟨.empty _, hm, hs, k, r, hk, hrun, hreports, herror _ rfl⟩

/-- Settings cannot be written if their radius cannot. -/
theorem isOverlong_of_radius {s : Settings} (h : s.sphereRadius.isOverlong = true) :
    s.toValue.isOverlong = true := by
  simp only [Settings.toValue, Settings.entries, Settings.names, List.zip_cons_cons,
    Settings.opened, Settings.openedEntries, Value.isOverlong, Value.isOverlongEntry, h,
    Bool.true_or]

/-- **An evaluation whose settings cannot be written is not kept.** A radius of 4301 digits is taken
for the settings, and then no run goes by the name that the evaluation is to be kept under. -/
theorem audit_untold_overlong :
    let e : Evaluator := .standard .known { Settings.usual with sphereRadius := .whole (10 ^ 4300) }
    let items : List Item := [.call (.point ⟨.ofInt 1, .ofInt 2, .text "1"⟩)]
    let trail := Trail.empty "noon"
    Settings.make e.units (.ofInt (10 ^ 4300)) (.text "foot") (.text "$") (.ofFloat 90.0)
        (.ofInt 20) = .ok e.settings ∧
      trail.Made ∧ trail.current = none ∧ (∀ item ∈ items, item.TextMemo) ∧
      (e.evaluateAudited e.start trail "survey" items).2.run? "survey" = none := by
  have hlong := Number.isOverlong_ten_pow
  have hpositive : (0 : Int) < 10 ^ 4300 := pow_pos (by decide) _
  -- the power is not to be multiplied out
  generalize (10 ^ 4300 : Int) = n at hlong hpositive ⊢
  intro e items trail
  have hs : e.settings.toValue.isOverlong = true := isOverlong_of_radius hlong
  have hradius : (Number.whole n).atMost 0 = false := decide_eq_false (not_le.mpr hpositive)
  have hfoot : Settings.checkUnit e.units (.text "foot") = .ok () := by
    have hone : e.units.metres 1.0 (.text "foot") = _ := UnitLibrary.metres_foot_eq 1.0
    rw [Settings.checkUnit, hone]
  refine ⟨?_, .empty _, rfl, ?_, ?_⟩
  · rw [Settings.make, Settings.radiusOf, hradius]
    exact bind_eq_ok.mpr ⟨_, rfl, bind_eq_ok.mpr ⟨(), hfoot, rfl⟩⟩
  · exact List.forall_mem_singleton.mpr ⟨"1", rfl⟩
  · rw [evaluateAudited_of_overlong hs]
    rfl

end Evaluator

end MetesBounds
