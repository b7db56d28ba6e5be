import MetesBounds.Proofs.Evaluation.Audit
import MetesBounds.Proofs.Traverse.Twins

/-!
# `Evaluation/Transparency` — an evaluation is the same whoever listens

Reporting and keeping a trail are done inside the steps: before a call is tried a line is made for
the log, and behind it a completed step is noted. Both could fail, or come between a step and the
state. They do not, and what an evaluation comes to depends neither on the level it reports from nor
on the trail that it is kept in. It is only that a trail needs everything written down: the settings
for their fingerprint, and the value of every step. `Evaluator.Writes` says that of the values.
Where the procedures are the standard ones it is no more than that the state which the evaluation
begins in can be written.

Evaluators that report from different levels take steps that agree, and so do their runs.

Main statements: `Evaluator.writes_of_standard` and `Evaluator.listening_changes_nothing`.
-/

set_option autoImplicit false

namespace MetesBounds

/-! ## What can be written -/

/-- An entry behind an insertion is the one inserted or was there before. -/
theorem Table.mem_insert {κ α : Type} [DecidableEq κ] {t : Table κ α} {k : κ} {a : α} {e : κ × α}
    (h : e ∈ (t.insert k a).entries) : e = (k, a) ∨ e ∈ t.entries := by
  obtain ⟨entries⟩ := t
  rw [insert] at h
  dsimp only at h ⊢
  induction entries with
  | nil => exact .inl (List.mem_singleton.mp h)
  | cons e' rest ih =>
    rw [put] at h
    split at h <;> rcases List.mem_cons.mp h with h | h
    · exact .inl h
    · exact .inr (List.mem_cons_of_mem _ h)
    · exact .inr (h ▸ List.mem_cons_self)
    · exact (ih h).imp_right (List.mem_cons_of_mem _)

/-- The symbol that a value stands for can be written if the value can. -/
theorem Symbol.isOverlong_of_ofValue {v : Value} {s : Symbol} (h : Symbol.ofValue v = .ok s)
    (hv : v.isOverlong = false) : s.isOverlong = false := by
  unfold ofValue at h
  split at h
  · cases h
    rfl
  · split at h
    · cases h
    · cases h
      exact hv

namespace Traverse

variable {t : Traverse}

/-- A traverse can be written if all can that it holds. -/
theorem isOverlong_eq_false : t.isOverlong = false ↔
    (∀ e ∈ t.symbols.entries, e.1.isOverlong = false ∧ (inside e.2).isOverlong = false) ∧
      (inside t.lastResult).isOverlong = false ∧ t.marker.isOverlong = false := by
  simp only [isOverlong, Bool.or_eq_false_iff, List.any_eq_false, Bool.not_eq_true, and_assoc]

/-- Binding its last result under what can be written leaves a traverse that can be written. -/
theorem isOverlong_bind {s : Symbol} (ht : t.isOverlong = false) (hs : s.isOverlong = false) :
    (t.bind s t.lastResult).isOverlong = false := by
  obtain ⟨hsymbols, hlast, hmarker⟩ := isOverlong_eq_false.mp ht
  have hspelling : ((t.symbols.keys.find? s.same).getD s).isOverlong = false := by
    cases hf : t.symbols.keys.find? s.same with
    | none => exact hs
    | some k =>
      obtain ⟨e, he, rfl⟩ := List.mem_map.mp (List.mem_of_find?_eq_some hf)
      exact (hsymbols e he).1
  refine isOverlong_eq_false.mpr ⟨fun e he => ?_, hlast, hmarker⟩
  rcases Table.mem_insert he with rfl | he
  · exact ⟨hspelling, hlast⟩
  · exact hsymbols e he

/-- What stands inside a traverse that can be written can be written outside. -/
theorem isOverlong_refresh_of_inside {v : Value} (ht : t.isOverlong = false)
    (hv : (inside v).isOverlong = false) : (t.refresh v).isOverlong = false := by
  rw [← hv]
  exact Value.isOverlong_mapRunning (fun _ => by rw [isNone_written?, ht]; rfl) v

end Traverse

/-- A step whose binding, if there is one, is under what can be written gives a value that can be
written, and leaves a state that can. -/
theorem Evaluator.Stepped.isOverlong_eq_false {t u : Traverse} {index : Int} {item : Item}
    {v : Value} (h : Evaluator.Stepped t index item v u) (ht : t.isOverlong = false)
    (hc : ∀ c, item = .call c → c.isOverlong = false) :
    v.isOverlong = false ∧ u.isOverlong = false := by
  obtain ⟨hsymbols, hlast, hmarker⟩ := Traverse.isOverlong_eq_false.mp ht
  cases h with
  | bound c s hs =>
    have hname : c.name.isOverlong = false := by
      have hc := hc _ rfl
      simp only [Call.isOverlong, Call.entries, List.any_cons, Bool.or_eq_false_iff] at hc
      exact hc.1
    have hu := Traverse.isOverlong_bind ht (Symbol.isOverlong_of_ofValue hs hname)
    exact ⟨Traverse.isOverlong_refresh_of_inside hu hlast, hu⟩
  | found => exact ⟨rfl, Traverse.isOverlong_eq_false.mpr ⟨hsymbols, rfl, hmarker⟩⟩
  | reckoned => exact ⟨rfl, Traverse.isOverlong_eq_false.mpr ⟨hsymbols, rfl, hmarker⟩⟩
  | cleared => exact ⟨rfl, Traverse.isOverlong_eq_false.mpr ⟨hsymbols, rfl, hmarker⟩⟩
  | reset => exact ⟨rfl, Traverse.isOverlong_eq_false.mpr ⟨(fun _ h => by cases h), rfl, hmarker⟩⟩

namespace Evaluator

variable {e : Evaluator} {t : Traverse} {items : List Item}

/-- Whether every value that the steps of an evaluation give can be written. -/
def Writes (e : Evaluator) (t : Traverse) (items : List Item) : Prop :=
  ∀ k v, e.valueAt t items k = some v → v.isOverlong = false

/-- A completed step of the standard procedures in a state that can be written. -/
theorem isOverlong_of_step (hr : e.procedures = .standard e.units) (ht : t.isOverlong = false)
    {item : Item} {index : Int} {s : Step} (h : (e.step t item index).result = .ok s) :
    s.value.isOverlong = false ∧ (e.step t item index).traverse.isOverlong = false := by
  refine (stepped hr h).isOverlong_eq_false ht ?_
  rintro c rfl
  exact (announces_of_step h).1

/-- No step of the standard procedures leaves what cannot be written in a state that can. -/
theorem isOverlong_step (hr : e.procedures = .standard e.units) (t : Traverse) (item : Item)
    (index : Int) (ht : t.isOverlong = false) :
    (e.step t item index).traverse.isOverlong = false := by
  cases hs : (e.step t item index).result with
  | ok s => exact (isOverlong_of_step hr ht hs).2
  | error err =>
    obtain ⟨d, hd⟩ := exists_does_self hr t item index
    have hresult : d.result = .error err := by rw [← hd.result, hs]; rfl
    rw [hd.traverse]
    cases d with
    | refuse => exact ht
    | drop =>
      obtain ⟨hsymbols, -, hmarker⟩ := Traverse.isOverlong_eq_false.mp ht
      exact Traverse.isOverlong_eq_false.mpr ⟨hsymbols, rfl, hmarker⟩
    | _ => cases hresult

/-- **From a state that can be written, the standard procedures give nothing that cannot.** -/
theorem writes_of_standard (hr : e.procedures = .standard e.units) (ht : t.isOverlong = false) :
    e.Writes t items := by
  intro k v hv
  obtain ⟨item, s, -, hs, rfl⟩ := step_of_valueAt hv
  have hbefore : (e.before t items k).isOverlong = false :=
    runFrom_preserves (isOverlong_step hr) (items.take k) 0 ht none
  exact (isOverlong_of_step hr hbefore hs).1

/-- An evaluation with a trail comes to what one without comes to, where everything can be
written. -/
theorem Completes.agrees {o : Outcome Result} {k : Nat} (h : e.Completes t items k o)
    (hv : e.Writes t items) : o.Agrees (e.evaluate t items) := by
  cases hitem : items[k]? with
  | none => exact h.ended hitem
  | some item =>
    obtain ⟨err, herr, hres, htrav⟩ := h.failed item hitem
    rcases herr with hs | ⟨s, hs, hlong⟩
    · have hw := walk_of_valueAt fun j hj => (h.completed j hj).imp fun _ h => h.1
      obtain ⟨hres', htrav'⟩ := evaluate_of_step_error hitem hw hs
      exact ⟨hres.trans hres'.symm, htrav.trans htrav'.symm⟩
    · rw [Value.written, hv k _ (valueAt_eq hitem hs)] at hlong
      cases hlong

/-- To keep a trail changes nothing about an evaluation, where all memos are text and everything can
be written. -/
theorem evaluateAudited_agrees (hm : ∀ item ∈ items, item.TextMemo)
    (hs : e.settings.toValue.isOverlong = false) (hv : e.Writes t items) (trail : Trail)
    (id : String) : (e.evaluateAudited t trail id items).1.Agrees (e.evaluate t items) := by
  obtain ⟨hash, hhash⟩ := configHashOf_of_not_overlong hs
  have hnotes : e.NotesOn t items fun _ _ => True := fun _ _ _ _ _ _ _ _ _ _ => trivial
  obtain ⟨k, left, hk, -⟩ := runFrom_completes (t := t) hm hnotes (trail.enter id hash).1 trivial
  exact (agrees_evaluateAudited hhash t trail id items).trans (hk.agrees hv)

/-! ## Listening from another level -/

/-- The same evaluator, reporting from another level on. -/
def heardFrom (e : Evaluator) (least : Number) : Evaluator :=
  { e with settings := { e.settings with logLevel := .number least } }

theorem logs_heardFrom (e : Evaluator) (least : Number) : (e.heardFrom least).Logs := ⟨least, rfl⟩

/-- Nothing that a call does asks for the level. -/
theorem complete_heardFrom (e : Evaluator) (least : Number) (t : Traverse) (c : Call)
    (index : Int) : (e.heardFrom least).complete t c index = e.complete t c index := rfl

theorem step_heardFrom (hl : e.Logs) (least : Number) (t : Traverse) (item : Item) (index : Int) :
    ((e.heardFrom least).step t item index).Agrees (e.step t item index) := by
  cases item with
  | other v => exact .refl _
  | call c =>
    cases hlong : c.isOverlong with
    | true =>
      rw [step_of_overlong hlong, step_of_overlong hlong]
      exact .refl _
    | false =>
      obtain ⟨hres, htrav⟩ := step_of_announces ⟨hlong, logs_heardFrom e least⟩ t index
      obtain ⟨hres', htrav'⟩ := step_of_announces (e := e) ⟨hlong, hl⟩ t index
      rw [complete_heardFrom] at hres htrav
      exact ⟨hres.trans hres'.symm, htrav.trans htrav'.symm⟩

/-- Steps that agree make runs that agree. -/
theorem walk_heardFrom (hl : e.Logs) (least : Number) (items : List Item) (count : Nat)
    (t : Traverse) : ((e.heardFrom least).walk count t items).Agrees (e.walk count t items) := by
  induction items generalizing count t with
  | nil => exact .refl _
  | cons item rest ih =>
    have hstep := step_heardFrom hl least t item count
    cases hs : (e.step t item count).result with
    | error err =>
      -- both walks end here
      obtain ⟨hres, htrav⟩ := walk_cons_of_error (hstep.result.trans hs) rest
      obtain ⟨hres', htrav'⟩ := walk_cons_of_error hs rest
      refine ⟨hres.trans hres'.symm, ?_⟩
      rw [htrav, htrav', hstep.traverse]
    | ok s =>
      -- both go on from the same state, behind logs that may differ
      rw [walk_cons_of_ok (hstep.result.trans hs), walk_cons_of_ok hs, hstep.traverse]
      exact (ih (count + 1) _).after _ _

theorem evaluate_heardFrom (hl : e.Logs) (least : Number) (t : Traverse) (items : List Item) :
    ((e.heardFrom least).evaluate t items).Agrees (e.evaluate t items) := by
  have hwalk := walk_heardFrom hl least items 0 t
  have htrav : ((e.heardFrom least).evaluate t items).traverse = (e.evaluate t items).traverse := by
    rw [traverse_evaluate, traverse_evaluate, hwalk.traverse]
  refine ⟨?_, htrav⟩
  rw [result_evaluate (logs_heardFrom e least), result_evaluate hl, htrav, hwalk.result]

/-- The values of the steps do not depend on the level either. -/
theorem writes_heardFrom (hl : e.Logs) (least : Number) (hv : e.Writes t items) :
    (e.heardFrom least).Writes t items := by
  intro k v h
  obtain ⟨item, s, hitem, hs, rfl⟩ := step_of_valueAt h
  rw [before, (evaluate_heardFrom hl least t _).traverse,
    (step_heardFrom hl least _ item k).result] at hs
  exact hv k _ (valueAt_eq hitem hs)

/-- Settings can be written from another level on if the level can be written. -/
theorem isOverlong_heardFrom (hs : e.settings.toValue.isOverlong = false) {least : Number}
    (hleast : least.isOverlong = false) :
    (e.heardFrom least).settings.toValue.isOverlong = false := by
  simp only [heardFrom, Settings.toValue, Settings.entries, Settings.names, List.zip_cons_cons,
    List.zip_nil_left, Settings.opened, Settings.openedEntries, Value.isOverlong,
    Value.isOverlongEntry, Bool.or_eq_false_iff] at hs ⊢
  obtain ⟨hradius, hunit, hmarker, hturn, -⟩ := hs
  exact ⟨hradius, hunit, hmarker, hturn, hleast, trivial⟩

/-- **Listening changes nothing.** Whatever procedures there are, whatever state an evaluation
begins in, and where all memos are text and the settings and the values of the steps can be written,
it comes to the same result or the same error, and leaves the same state in all its parts, from
whichever level on it reports, and whether or not it is kept in a trail, in whatever state that is
and under whatever name. -/
theorem listening_changes_nothing (hl : e.Logs) (hm : ∀ item ∈ items, item.TextMemo)
    (hs : e.settings.toValue.isOverlong = false) (hv : e.Writes t items) :
    (∀ trail id, (e.evaluateAudited t trail id items).1.Agrees (e.evaluate t items)) ∧
      ∀ least, ((e.heardFrom least).evaluate t items).Agrees (e.evaluate t items) ∧
        (least.isOverlong = false → ∀ trail id,
          ((e.heardFrom least).evaluateAudited t trail id items).1.Agrees
            (e.evaluate t items)) := by
  refine ⟨evaluateAudited_agrees hm hs hv, fun least => ?_⟩
  have hheard := evaluate_heardFrom hl least t items
  refine ⟨hheard, fun hleast trail id => ?_⟩
  have hs' := isOverlong_heardFrom hs hleast
  exact (evaluateAudited_agrees hm hs' (writes_heardFrom hl least hv) trail id).trans hheard

/-- A point, and a line over a bearing that is not bound, reported from the lowest level on and kept
in a trail. -/
theorem listening_changes_nothing_unbound :
    let e : Evaluator := .standard .known .usual
    let items : List Item := [.call (.point ⟨.ofInt 1, .ofInt 2, .text "1"⟩),
      .call (.line ⟨.reference "b", .ofInt 3, .text "TRUE", .text ""⟩)]
    e.Logs ∧ (∀ item ∈ items, item.TextMemo) ∧ e.settings.toValue.isOverlong = false ∧
      e.Writes e.start items ∧
      (e.evaluate e.start items).result = .error (.unresolved "b") ∧
      ((e.heardFrom (.whole 0)).evaluateAudited e.start (.empty "") "run" items).1.Agrees
        (e.evaluate e.start items) := by
  intro e items
  have hl : e.Logs := ⟨_, rfl⟩
  have hm : ∀ item ∈ items, item.TextMemo :=
    List.forall_mem_cons.mpr ⟨⟨"1", rfl⟩, List.forall_mem_singleton.mpr ⟨"", rfl⟩⟩
  have hs : e.settings.toValue.isOverlong = false := rfl
  have hv : e.Writes e.start items := writes_of_standard rfl rfl
  obtain ⟨-, hheard⟩ := listening_changes_nothing hl hm hs hv
  exact ⟨hl, hm, hs, hv, rfl, (hheard _).2 rfl _ _⟩

end Evaluator

end MetesBounds
