import MetesBounds.Proofs.Trail.Counts
import MetesBounds.Proofs.Trail.Runs

/-!
# `Trail/Nesting` — where a step goes when runs stand one inside the other

A run may be entered while another one is open, and then ends before it. A step belongs to the
innermost run that is open. A trail, however, has one place for the run that is current: entering
fills it, and every end empties it, also that of a run inside another. So a step goes where it
belongs exactly as long as nothing has ended since the last run was entered; behind the end of an
inner run the steps of the outer one are written to no run at all.

`Course` is a trail together with the runs that are open, and `Course.Sound` is what all moves keep,
as long as no name is used twice.

Main statement: `Course.keeps_iff_enteredLast`.
-/

set_option autoImplicit false

namespace MetesBounds

namespace Trail

/-! ## What one step does to the runs -/

section Step

variable {t : Trail} {id : String} {n : Nat}

theorem runs_record_of_current (hc : t.current = some id) (hn : t.named.get? id = some n)
    (index : Int) (label kind result : String) (produced : Bool) :
    (t.record index label kind result produced).1.runs =
      t.runs.modify n (·.add ⟨t.clock, index, label, kind, result, produced⟩) := by
  simp only [record, hc, hn, runs_write, modifyRun]

theorem runs_record_of_none (hc : t.current = none) (index : Int) (label kind result : String)
    (produced : Bool) : (t.record index label kind result produced).1.runs = t.runs := by
  simp only [record, hc, runs_write]

theorem current_record (t : Trail) (index : Int) (label kind result : String) (produced : Bool) :
    (t.record index label kind result produced).1.current = t.current := by
  simp only [record, current_write]
  split
  · split <;> rfl
  · rfl

/-- What a name stands for is the run at its place. -/
theorem run?_of_get? (hn : t.named.get? id = some n) : t.run? id = t.runs[n]? := by
  rw [run?, hn]

end Step

theorem runs_fail (t : Trail) (n : Nat) (error : String) :
    (t.fail n error).1.runs =
      (t.runs.modify n fun r => { r with error := some error }).modify n
        fun r => { r with endTime := some t.clock } := by
  rw [fail]
  dsimp only [exit, modifyRun]
  rw [runs_write, clock_write]

/-- What holds of every run holds of every run after one of them has been changed in a way that
keeps it. -/
theorem forall_mem_modify {P : AuditRun → Prop} {rs : List AuditRun} (h : ∀ r ∈ rs, P r) (n : Nat)
    {f : AuditRun → AuditRun} (hf : ∀ r, P r → P (f r)) : ∀ r ∈ rs.modify n f, P r := by
  intro r hr
  obtain ⟨i, hi⟩ := List.mem_iff_getElem?.mp hr
  rw [List.getElem?_modify] at hi
  obtain ⟨r', hr', rfl⟩ := Option.map_eq_some_iff.mp hi
  have hp : P r' := h r' (List.mem_of_getElem? hr')
  split
  · exact hf r' hp
  · exact hp

end Trail

/-! ## Moves -/

/-- What is done with a trail: a run is entered with the fingerprint of its configuration, a step is
written, or the innermost of the runs that are open ends, with an error or without one. Between
moves time goes on. The time of a step is that of the trail. -/
inductive Move where
  | enter (id configHash : String)
  | step (s : AuditStep)
  | exit
  | fail (error : String)
  | wait (clock : String)

namespace Move

/-- The name of the run that is entered. -/
def entered? : Move → Option String
  | enter id _ => some id
  | _ => none

/-- Whether a run ends. -/
def ends : Move → Bool
  | exit | fail _ => true
  | _ => false

/-- The names of the runs that have been entered. -/
def names (moves : List Move) : List String := moves.filterMap entered?

/-- A run has been entered, and none has ended since. -/
def EnteredLast (moves : List Move) : Prop :=
  ∃ earlier id configHash later,
    moves = earlier ++ .enter id configHash :: later ∧ ∀ m ∈ later, m.ends = false

theorem enteredLast_enter (moves : List Move) (id configHash : String) :
    EnteredLast (moves ++ [.enter id configHash]) :=
  ⟨moves, id, configHash, [], rfl, fun _ h => nomatch h⟩

/-- Only an end has a run no longer entered last. -/
theorem EnteredLast.concat {moves : List Move} (h : EnteredLast moves) {m : Move}
    (hm : m.ends = false) : EnteredLast (moves ++ [m]) := by
  obtain ⟨earlier, id, configHash, later, rfl, hlater⟩ := h
  refine ⟨earlier, id, configHash, later ++ [m], by simp, ?_⟩
  intro m' hm'
  rcases List.mem_append.mp hm' with hm' | hm'
  · exact hlater m' hm'
  · rw [List.mem_singleton.mp hm']
    exact hm

/-- A move that is not itself an entry leaves the last entry where it was. -/
theorem EnteredLast.of_concat {moves : List Move} {m : Move} (h : EnteredLast (moves ++ [m]))
    (hm : m.entered? = none) : EnteredLast moves ∧ m.ends = false := by
  obtain ⟨earlier, id, configHash, later, heq, hlater⟩ := h
  rcases List.eq_nil_or_concat later with rfl | ⟨later, m', rfl⟩
  · obtain ⟨-, hlast⟩ := List.append_inj' heq rfl
    cases hlast
    cases hm
  · rw [List.concat_eq_append, ← List.cons_append, ← List.append_assoc] at heq
    obtain ⟨rfl, hlast⟩ := List.append_inj' heq rfl
    cases hlast
    rw [List.concat_eq_append] at hlater
    exact ⟨⟨earlier, id, configHash, later, rfl, fun x hx => hlater x (List.mem_append_left _ hx)⟩,
      hlater m (List.mem_append_right _ (List.mem_singleton_self m))⟩

theorem not_enteredLast_nil : ¬EnteredLast [] := by
  rintro ⟨earlier, id, configHash, later, h, -⟩
  simp at h

/-- Behind an end no run has been entered last. -/
theorem not_enteredLast_of_ends {m : Move} (hm : m.ends = true) (moves : List Move) :
    ¬EnteredLast (moves ++ [m]) := by
  intro hl
  have hentered : m.entered? = none := by cases m <;> first | rfl | cases hm
  obtain ⟨-, hends⟩ := hl.of_concat hentered
  rw [hends] at hm
  cases hm

end Move

/-! ## Courses -/

/-- A trail and the runs that are open in it, by name and place, the innermost first. -/
structure Course where
  trail : Trail
  opened : List (String × Nat)

namespace Course

/-- A course with one more move. What ends is the innermost open run; where none is open, nothing
ends. -/
def take (c : Course) : Move → Course
  | .enter id configHash =>
    ⟨(c.trail.enter id configHash).1, (id, (c.trail.enter id configHash).2.1) :: c.opened⟩
  | .step s => { c with trail := (c.trail.record s.index s.label s.kind s.result s.producedPoint).1 }
  | .exit =>
    match c.opened with
    | [] => c
    | e :: rest => ⟨(c.trail.exit e.2).1, rest⟩
  | .fail error =>
    match c.opened with
    | [] => c
    | e :: rest => ⟨(c.trail.fail e.2 error).1, rest⟩
  | .wait clock => { c with trail := { c.trail with clock } }

/-- The course of some moves with a trail that holds nothing before. -/
def after (clock : String) (moves : List Move) : Course :=
  moves.foldl take ⟨.empty clock, []⟩

/-- A step goes where it belongs: to the innermost run that is open, with its counts, and to no
other; where no run is open, to none. -/
def Keeps (c : Course) (s : AuditStep) : Prop :=
  match c.opened with
  | [] => ∀ id, (c.take (.step s)).trail.run? id = c.trail.run? id
  | (id, _) :: _ =>
    (∃ r, c.trail.run? id = some r ∧ r.Counted ∧
      (c.take (.step s)).trail.run? id = some (r.add { s with time := c.trail.clock })) ∧
    ∀ id', id' ≠ id → (c.take (.step s)).trail.run? id' = c.trail.run? id'

/-- What moves keep: names stand for different places, open runs are found under their names, the
current run is the innermost open one exactly as long as none has ended since it was entered, and
all runs have counted their steps. -/
structure Sound (moves : List Move) (c : Course) : Prop where
  made : c.trail.Made
  inj : ∀ {id id' n}, c.trail.named.get? id = some n → c.trail.named.get? id' = some n → id = id'
  stored : ∀ e ∈ c.opened, c.trail.named.get? e.1 = some e.2
  entered : ∀ e ∈ c.opened, e.1 ∈ Move.names moves
  current : Move.EnteredLast moves →
    ∃ e rest, c.opened = e :: rest ∧ c.trail.current = some e.1
  none : ¬Move.EnteredLast moves → c.trail.current = none
  counted : ∀ r ∈ c.trail.runs, r.Counted

variable {moves : List Move} {c : Course} {clock : String}

theorem sound_empty (clock : String) : Sound [] ⟨.empty clock, []⟩ where
  made := .empty clock
  inj h := by cases h
  stored _ h := by cases h
  entered _ h := by cases h
  current h := absurd h Move.not_enteredLast_nil
  none _ := rfl
  counted _ h := by cases h

namespace Sound

theorem names_concat {m : Move} {id : String} (h : id ∈ Move.names moves) :
    id ∈ Move.names (moves ++ [m]) := by
  rw [Move.names, List.filterMap_append]
  exact List.mem_append_left _ h

/-- A run under a new name is the innermost one and current. -/
theorem enter (h : Sound moves c) {id : String} (hid : id ∉ Move.names moves) (configHash : String) :
    Sound (moves ++ [.enter id configHash]) (c.take (.enter id configHash)) where
  made := h.made.enter id configHash
  inj := by
    intro i j n hi hj
    simp only [take, Trail.enter, Table.get?_insert] at hi hj
    -- the new place is behind all that had names before
    split at hi <;> split at hj
    · next hi' hj' => rw [hi', hj']
    · cases hi
      exact absurd (h.made.lt hj) (Nat.lt_irrefl _)
    · cases hj
      exact absurd (h.made.lt hi) (Nat.lt_irrefl _)
    · exact h.inj hi hj
  stored := by
    intro e he
    simp only [take, Trail.enter, Table.get?_insert]
    rcases List.mem_cons.mp he with rfl | he
    · exact if_pos rfl
    · have hne : e.1 ≠ id := fun heq => hid (heq ▸ h.entered e he)
      rw [if_neg hne]
      exact h.stored e he
  entered := by
    intro e he
    rcases List.mem_cons.mp he with rfl | he
    · simp [Move.names, Move.entered?]
    · exact names_concat (h.entered e he)
  current _ := ⟨_, _, rfl, rfl⟩
  none hn := absurd (Move.enteredLast_enter _ _ _) hn
  counted := by
    intro r hr
    rcases List.mem_append.mp hr with hr | hr
    · exact h.counted r hr
    · rw [List.mem_singleton.mp hr]
      exact AuditRun.counted_entered ..

/-- What neither enters a run nor ends one, and leaves the names and the current run alone. -/
theorem kept (h : Sound moves c) {m : Move} (hm : m.entered? = Option.none) (hm' : m.ends = false)
    {t : Trail} (ht : t.Made) (hnamed : t.named = c.trail.named)
    (hcurrent : t.current = c.trail.current) (hcounted : ∀ r ∈ t.runs, r.Counted) :
    Sound (moves ++ [m]) { c with trail := t } where
  made := ht
  inj := by
    rw [hnamed]
    exact h.inj
  stored e he := by
    rw [hnamed]
    exact h.stored e he
  entered e he := names_concat (h.entered e he)
  current hl := by
    rw [hcurrent]
    exact h.current (hl.of_concat hm).1
  none hl := by
    rw [hcurrent]
    exact h.none fun hl' => hl (hl'.concat hm')
  counted := hcounted

theorem step (h : Sound moves c) (s : AuditStep) :
    Sound (moves ++ [.step s]) (c.take (.step s)) := by
  obtain ⟨-, hnamed⟩ :=
    Trail.length_record c.trail s.index s.label s.kind s.result s.producedPoint
  have hcurrent := Trail.current_record c.trail s.index s.label s.kind s.result s.producedPoint
  refine h.kept rfl rfl (h.made.record s.index s.label s.kind s.result s.producedPoint) hnamed
    hcurrent ?_
  rw [Trail.record, Trail.runs_write]
  split
  · split
    · exact Trail.forall_mem_modify h.counted _ fun r hr => hr.add _
    · exact h.counted
  · exact h.counted

/-- Behind the end of a run none is current, whatever other runs are open. -/
theorem ended (h : Sound moves c) {e : String × Nat} {rest : List (String × Nat)}
    (hc : c.opened = e :: rest) {m : Move} (hm : m.ends = true) {t : Trail} (ht : t.Made)
    (hnamed : t.named = c.trail.named) (hcurrent : t.current = Option.none)
    (hcounted : ∀ r ∈ t.runs, r.Counted) : Sound (moves ++ [m]) ⟨t, rest⟩ where
  made := ht
  inj := by
    rw [hnamed]
    exact h.inj
  stored e' he' := by
    rw [hnamed]
    exact h.stored e' (hc ▸ List.mem_cons_of_mem e he')
  entered e' he' := names_concat (h.entered e' (hc ▸ List.mem_cons_of_mem e he'))
  current hl := absurd hl (Move.not_enteredLast_of_ends hm moves)
  none _ := hcurrent
  counted := hcounted

/-- Where nothing is open, an end changes nothing. -/
theorem idle (h : Sound moves c) (hc : c.opened = []) {m : Move} (hm : m.ends = true) :
    Sound (moves ++ [m]) c where
  made := h.made
  inj := h.inj
  stored := h.stored
  entered e he := names_concat (h.entered e he)
  current hl := absurd hl (Move.not_enteredLast_of_ends hm moves)
  none _ := by
    refine h.none fun hl => ?_
    obtain ⟨e, rest, hopened, -⟩ := h.current hl
    rw [hc] at hopened
    cases hopened
  counted := h.counted

theorem exit (h : Sound moves c) : Sound (moves ++ [.exit]) (c.take .exit) := by
  rw [take]
  split
  · next hc => exact h.idle hc rfl
  · next e rest hc =>
    exact h.ended hc rfl (h.made.exit _) (Trail.length_exit _ _).2 rfl
      (Trail.forall_mem_modify h.counted _ fun r hr => ⟨hr.recordCount, hr.pointCount⟩)

theorem fail (h : Sound moves c) (error : String) :
    Sound (moves ++ [.fail error]) (c.take (.fail error)) := by
  rw [take]
  split
  · next hc => exact h.idle hc rfl
  · next e rest hc =>
    refine h.ended hc rfl (h.made.fail e.2 error) (Trail.length_fail c.trail e.2 error).2 rfl ?_
    rw [Trail.runs_fail]
    refine Trail.forall_mem_modify ?_ _ fun r hr => ⟨hr.recordCount, hr.pointCount⟩
    exact Trail.forall_mem_modify h.counted _ fun r hr => ⟨hr.recordCount, hr.pointCount⟩

theorem wait (h : Sound moves c) (clock : String) :
    Sound (moves ++ [.wait clock]) (c.take (.wait clock)) :=
  h.kept rfl rfl (h.made.later clock) rfl rfl h.counted

/-- **Every move keeps a course sound** that enters no run under a name used before. -/
theorem take (h : Sound moves c) {m : Move} (hm : ∀ id, m.entered? = some id → id ∉ Move.names moves) :
    Sound (moves ++ [m]) (c.take m) := by
  cases m with
  | enter id configHash => exact h.enter (hm id rfl) configHash
  | step s => exact h.step s
  | exit => exact h.exit
  | fail error => exact h.fail error
  | wait clock => exact h.wait clock

/-- From one sound course to another, move by move. -/
theorem foldl (h : Sound moves c) (more : List Move) (hd : (Move.names (moves ++ more)).Nodup) :
    Sound (moves ++ more) (more.foldl Course.take c) := by
  induction more generalizing moves c with
  | nil =>
    rw [List.append_nil]
    exact h
  | cons m more ih =>
    rw [List.append_cons] at hd ⊢
    have hnew : ∀ id, m.entered? = some id → id ∉ Move.names moves := by
      intro id hm hid
      have hnames : Move.names (moves ++ [m] ++ more) =
          Move.names moves ++ id :: Move.names more := by
        simp [Move.names, hm]
      rw [hnames, List.nodup_append] at hd
      exact hd.2.2 id hid id List.mem_cons_self rfl
    exact ih (h.take hnew) hd

/-- An open run is found under its name. -/
theorem run?_opened (h : Sound moves c) {e : String × Nat} (he : e ∈ c.opened) :
    ∃ r, c.trail.runs[e.2]? = some r ∧ c.trail.run? e.1 = some r ∧ r.Counted := by
  have hn : c.trail.named.get? e.1 = some e.2 := h.stored e he
  have hr := List.getElem?_eq_getElem (h.made.lt hn)
  exact ⟨_, hr, (Trail.run?_of_get? hn).trans hr, h.counted _ (List.mem_of_getElem? hr)⟩

/-- Where no run is current, a step is written to none. -/
theorem run?_step_of_not (h : Sound moves c) (hl : ¬Move.EnteredLast moves) (s : AuditStep)
    (id : String) : (c.take (.step s)).trail.run? id = c.trail.run? id := by
  obtain ⟨-, hnamed⟩ :=
    Trail.length_record c.trail s.index s.label s.kind s.result s.producedPoint
  simp only [Course.take, Trail.run?, hnamed, Trail.runs_record_of_none (h.none hl)]

/-- Where a run has been entered last, a step is written to it and to no other. -/
theorem keeps_of_enteredLast (h : Sound moves c) (hl : Move.EnteredLast moves) (s : AuditStep) :
    c.Keeps s := by
  obtain ⟨⟨id, n⟩, rest, hopened, hcurrent⟩ := h.current hl
  have hmem : (id, n) ∈ c.opened := by
    rw [hopened]
    exact List.mem_cons_self
  have hn : c.trail.named.get? id = some n := h.stored _ hmem
  obtain ⟨r, hr, hrun, hcounted⟩ := h.run?_opened hmem
  obtain ⟨-, hnamed⟩ :=
    Trail.length_record c.trail s.index s.label s.kind s.result s.producedPoint
  rw [Keeps, hopened]
  refine ⟨⟨r, hrun, hcounted, ?_⟩, ?_⟩
  · simp only [Course.take, Trail.run?, hnamed, hn, Trail.runs_record_of_current hcurrent hn,
      List.getElem?_modify_eq, hr]
    rfl
  · intro id' hne
    simp only [Course.take, Trail.run?, hnamed, Trail.runs_record_of_current hcurrent hn]
    split
    · next n' hn' =>
      -- another name stands for another place
      have hplace : n ≠ n' := fun heq => hne (h.inj hn' (heq ▸ hn))
      exact List.getElem?_modify_ne _ _ hplace
    · rfl

end Sound

/-- No run has as many steps as the same run with one more. -/
theorem not_keeps_of_run?_eq {s : AuditStep} {e : String × Nat} {rest : List (String × Nat)}
    (hopened : c.opened = e :: rest)
    (hrun : ∀ id, (c.take (.step s)).trail.run? id = c.trail.run? id) : ¬c.Keeps s := by
  rw [Keeps, hopened]
  rintro ⟨⟨r, hr, -, hadd⟩, -⟩
  rw [hrun, hr] at hadd
  have hlength := congrArg (fun r => r.steps.length) (Option.some.inj hadd)
  simp [AuditRun.add] at hlength

/-- **Which steps are kept.** In every course that enters no name twice, at whatever moment: a step
is added to the innermost open run, with its counts, and to no other run, exactly as long as no run
has ended since the last one was entered. Behind that, and where no run is open, a step changes no
run at all, so that of an outer run nothing is kept once an inner one has ended. -/
theorem keeps_iff_enteredLast (clock : String) (moves : List Move)
    (hd : (Move.names moves).Nodup) (s : AuditStep) :
    ((after clock moves).Keeps s ↔ (after clock moves).opened = [] ∨ Move.EnteredLast moves) ∧
      (¬Move.EnteredLast moves →
        ∀ id, ((after clock moves).take (.step s)).trail.run? id =
          (after clock moves).trail.run? id) := by
  have h : Sound moves (after clock moves) := (sound_empty clock).foldl moves hd
  refine ⟨⟨?_, ?_⟩, fun hl => h.run?_step_of_not hl s⟩
  · intro hk
    by_cases hl : Move.EnteredLast moves
    · exact .inr hl
    · rcases hopened : (after clock moves).opened with _ | ⟨e, rest⟩
      · exact .inl rfl
      · exact absurd hk (not_keeps_of_run?_eq hopened (h.run?_step_of_not hl s))
  · rintro (hopened | hl)
    · have hl : ¬Move.EnteredLast moves := by
        intro hl
        obtain ⟨e, rest, hcons, -⟩ := h.current hl
        rw [hopened] at hcons
        cases hcons
      rw [Keeps, hopened]
      exact h.run?_step_of_not hl s
    · exact h.keeps_of_enteredLast hl s

/-- The second of two runs has ended, and the first one is still open. -/
def outerLeft : List Move := [.enter "outer" "", .enter "inner" "", .exit]

theorem keeps_iff_enteredLast_outerLeft :
    (Move.names outerLeft).Nodup ∧
      ((after "" outerLeft).Keeps ⟨"", 0, "P1", "P", "x", true⟩ ↔
        (after "" outerLeft).opened = [] ∨ Move.EnteredLast outerLeft) ∧
      (¬Move.EnteredLast outerLeft → ∀ id,
        ((after "" outerLeft).take (.step ⟨"", 0, "P1", "P", "x", true⟩)).trail.run? id =
          (after "" outerLeft).trail.run? id) :=
  have hd : (Move.names outerLeft).Nodup := by decide
  ⟨hd, keeps_iff_enteredLast "" outerLeft hd _⟩

/-- **A step can be lost while a run is open**: behind the end of an inner run, the outer one is the
innermost that is open, and the step is not in it. -/
theorem step_lost_behind_inner :
    ¬∀ (clock : String) (moves : List Move) (s : AuditStep), (Move.names moves).Nodup →
      (after clock moves).Keeps s := by
  intro hall
  obtain ⟨⟨r, hr, -, hadd⟩, -⟩ := hall "" outerLeft ⟨"", 0, "P1", "P", "x", true⟩ (by decide)
  cases hr
  cases hadd

end Course

end MetesBounds
