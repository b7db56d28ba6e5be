import MetesBounds.Trail

/-!
# `Trail/Runs` — which runs the operations on a trail touch

A trail keeps its runs in a list, in the order of entering, and names stand for places in it. So a
run that has been entered can only be reached through its own name, as long as no name stands for a
place that is still free. That is so of every trail that the operations make (`Trail.Made.lt`), and
it is why a run that is entered, written to and ended leaves all others as they are.

`Trail.Open` is the invariant between entering and ending. What is written to the log and to a file
is no part of it.

Main statements: `Trail.Open.record`, `Trail.Open.ended_exit` and `Trail.Open.ended_fail`.
-/

set_option autoImplicit false

namespace MetesBounds.Trail

variable {t base : Trail} {id : String} {r : AuditRun} {n : Nat}

/-! ## What operations leave alone -/

section Fields

variable (t : Trail) (level : Level) (message : String)

@[simp] theorem runs_write : (t.write level message).runs = t.runs := by
  rw [write]
  split <;> rfl

@[simp] theorem named_write : (t.write level message).named = t.named := by
  rw [write]
  split <;> rfl

@[simp] theorem current_write : (t.write level message).current = t.current := by
  rw [write]
  split <;> rfl

@[simp] theorem clock_write : (t.write level message).clock = t.clock := by
  rw [write]
  split <;> rfl

end Fields

/-! ## Trails that operations make -/

/-- A trail that comes of operations on an empty one, at whatever times. -/
inductive Made : Trail → Prop
  | empty (clock : String) : Made (.empty clock)
  | later {t : Trail} (h : Made t) (clock : String) : Made { t with clock }
  | enter {t : Trail} (h : Made t) (id configHash : String) : Made (t.enter id configHash).1
  | record {t : Trail} (h : Made t) (index : Int) (label kind result : String) (produced : Bool) :
    Made (t.record index label kind result produced).1
  | exit {t : Trail} (h : Made t) (n : Nat) : Made (t.exit n).1
  | fail {t : Trail} (h : Made t) (n : Nat) (error : String) : Made (t.fail n error).1
  | openFile {t : Trail} (h : Made t) : Made t.openFile
  | close {t : Trail} (h : Made t) : Made t.close

/-- Writing a step changes runs, but not how many there are. -/
theorem length_record (t : Trail) (index : Int) (label kind result : String) (produced : Bool) :
    (t.record index label kind result produced).1.runs.length = t.runs.length ∧
      (t.record index label kind result produced).1.named = t.named := by
  simp only [record, runs_write, named_write]
  split
  · split
    · exact ⟨List.length_modify .., rfl⟩
    · exact ⟨rfl, rfl⟩
  · exact ⟨rfl, rfl⟩

theorem length_exit (t : Trail) (n : Nat) :
    (t.exit n).1.runs.length = t.runs.length ∧ (t.exit n).1.named = t.named :=
  ⟨List.length_modify .., rfl⟩

theorem length_fail (t : Trail) (n : Nat) (error : String) :
    (t.fail n error).1.runs.length = t.runs.length ∧ (t.fail n error).1.named = t.named := by
  rw [fail]
  refine ⟨(length_exit _ n).1.trans ?_, (length_exit _ n).2.trans ?_⟩
  · rw [runs_write]
    exact List.length_modify ..
  · rw [named_write]
    rfl

/-- **No name stands for a place that is still free.** -/
theorem Made.lt (h : Made t) {id : String} {n : Nat} (hn : t.named.get? id = some n) :
    n < t.runs.length := by
  induction h with
  | empty => cases hn
  | later h clock ih => exact ih hn
  | @enter t h id' configHash ih =>
    simp only [Trail.enter, Table.get?_insert, List.length_append, List.length_singleton] at hn ⊢
    split at hn
    · cases hn
      exact Nat.lt_succ_self _
    · exact Nat.lt_succ_of_lt (ih hn)
  | @record t h index label kind result produced ih =>
    obtain ⟨hlength, hnamed⟩ := length_record t index label kind result produced
    rw [hlength]
    exact ih (hnamed ▸ hn)
  | exit h n ih =>
    rw [(length_exit _ n).1]
    exact ih hn
  | @fail t h m error ih =>
    obtain ⟨hlength, hnamed⟩ := length_fail t m error
    rw [hlength]
    exact ih (hnamed ▸ hn)
  | openFile h ih => exact ih hn
  | close h ih => exact ih hn

/-! ## Inside a run -/

/-- A trail inside a run: it is the trail before, with one run more, which is the current one and
goes by its name. -/
structure Open (base : Trail) (id : String) (r : AuditRun) (t : Trail) : Prop where
  clock : t.clock = base.clock
  runs : t.runs = base.runs ++ [r]
  named : t.named = base.named.insert id base.runs.length
  current : t.current = some id

theorem open_enter (t : Trail) (id configHash : String) :
    Open t id (.entered id configHash t.clock) (t.enter id configHash).1 :=
  ⟨rfl, rfl, rfl, rfl⟩

theorem Open.write (h : Open base id r t) (level : Level) (message : String) :
    Open base id r (t.write level message) where
  clock := (clock_write ..).trans h.clock
  runs := (runs_write ..).trans h.runs
  named := (named_write ..).trans h.named
  current := (current_write ..).trans h.current

theorem Open.modifyRun (h : Open base id r t) (f : AuditRun → AuditRun) :
    Open base id (f r) (t.modifyRun base.runs.length f) where
  clock := h.clock
  runs := by simp [Trail.modifyRun, h.runs, List.modify_eq_take_drop, List.modifyHead]
  named := h.named
  current := h.current

/-- **A step is written to the run that is open.** -/
theorem Open.record (h : Open base id r t) (index : Int) (label kind result : String)
    (produced : Bool) :
    Open base id (r.add ⟨base.clock, index, label, kind, result, produced⟩)
      (t.record index label kind result produced).1 := by
  have hnamed : t.named.get? id = some base.runs.length := by
    rw [h.named, Table.get?_insert, if_pos rfl]
  simp only [Trail.record, h.current, hnamed, h.clock]
  exact (h.modifyRun (·.add ⟨base.clock, index, label, kind, result, produced⟩)).write _ _

/-! ## Behind a run -/

/-- A trail behind a run: the run goes by its name, no run is current, and what any other name
stands for is what it stood for before. -/
structure Ended (base : Trail) (id : String) (r : AuditRun) (t : Trail) : Prop where
  run? : t.run? id = some r
  current : t.current = none
  other : ∀ id', id' ≠ id → t.run? id' = base.run? id'

theorem Open.ended_exit (hb : base.Made) (h : Open base id r t) :
    Ended base id { r with endTime := some base.clock } (t.exit base.runs.length).1 := by
  have hclosed := h.modifyRun fun r => { r with endTime := some t.clock }
  rw [← h.clock]
  have hruns : (t.exit base.runs.length).1.runs =
      base.runs ++ [{ r with endTime := some t.clock }] := hclosed.runs
  have hnamed : (t.exit base.runs.length).1.named =
      base.named.insert id base.runs.length := hclosed.named
  refine ⟨?_, rfl, fun id' hid => ?_⟩
  · rw [Trail.run?, hnamed, Table.get?_insert, if_pos rfl, hruns]
    exact List.getElem?_concat_length
  · rw [Trail.run?, Trail.run?, hnamed, Table.get?_insert, if_neg hid, hruns]
    cases hn : base.named.get? id' with
    | none => rfl
    | some n => exact List.getElem?_append_left (hb.lt hn)

theorem Open.ended_fail (hb : base.Made) (h : Open base id r t) (error : String) :
    Ended base id { r with error := some error, endTime := some base.clock }
      (t.fail base.runs.length error).1 := by
  rw [fail]
  exact ((h.modifyRun fun r => { r with error := some error }).write _ _).ended_exit hb

end MetesBounds.Trail
