import MetesBounds.Instruments.Known
import MetesBounds.Proofs.Evaluation.Alike

/-!
# `Evaluation/Emptying` — what calls that empty the result cut off, and what they keep

Two procedures empty the result. Clearing keeps the position and the symbols, so the items behind it
find the same points as without it; only the last result is gone, until something else is one.
Resetting forgets everything but the marker, so the items behind it are evaluated as if there had
been none before. Both are said of two evaluations: one with the call and one without it, or one of
the items behind it alone.

Each is `Evaluator.walk_alike` for the two traverses right behind the call. That items which fail do
so in both evaluations, and over the same, is a part of it.

Main statements: `Evaluator.clearing_keeps_course` and `Evaluator.resetting_isolates`.
-/

set_option autoImplicit false

namespace MetesBounds

variable {e : Evaluator} {t u : Traverse} {xs ys : List Item} {name : String}

/-! ## Calls of a procedure without arguments -/

/-- A marker that does not mark a text: the text does not begin with it, or it marks nothing. -/
def Value.Spares (marker : Value) (s : String) : Prop := marker.markedName? s = .ok none

/-- A call of a procedure without arguments. -/
def Call.bare (name memo : String) : Call := .procedure ⟨.text name, .row [], .text memo⟩

theorem Traverse.substitute_bare (h : t.marker.Spares name) (memo : String) :
    t.substitute (.bare name memo) = .ok (.bare name memo) := by
  have hname : t.resolveField .name (.text name) = .ok (.text name) := by
    simp only [resolveField, resolve, Value.marked, Value.Spares] at h ⊢
    rw [h]
    rfl
  rw [substitute, Call.bare, Call.mapFields, hname]
  rfl

namespace Evaluator

theorem does_bare (hr : e.procedures = .standard e.units) (hl : e.Logs) (h : t.marker.Spares name)
    (memo : String) (index : Int) : e.Does t (.call (.bare name memo)) index
      (.ofCalled (.text name) ((Registry.standard e.units).call (.text name) (.row []) t).1) :=
  does_of_asked hr ⟨rfl, hl⟩ (Traverse.substitute_bare h memo) index

/-! ## What a run keeps -/

/-- A run with the standard procedures keeps the marker, and what is held stays free of the
traverse itself. -/
theorem settled_evaluate (hr : e.procedures = .standard e.units) (items : List Item) :
    (e.evaluate e.start items).traverse.marker = e.settings.marker ∧
      (e.evaluate e.start items).traverse.Settled := by
  refine evaluate_preserves hr (P := fun t => t.marker = e.settings.marker ∧ t.Settled) ?_
    ⟨rfl, .start _⟩ items
  rintro t d index ⟨hm, hs⟩
  exact ⟨(d.marker_apply index t).trans hm, hs.apply d index⟩

/-- Behind a call of a procedure without arguments, the steps go on from what its deed makes of the
state. -/
theorem walk_append_bare (hr : e.procedures = .standard e.units)
    (hm : e.settings.marker.Spares name) (hx : e.Accepts e.start xs) {d : Deed}
    (hd : d.result = .ok false) (hcall : ∀ t, .ofCalled (.text name)
      ((Registry.standard e.units).call (.text name) (.row []) t).1 = d) (memo : String)
    (ys : List Item) :
    let u := d.apply xs.length (e.evaluate e.start xs).traverse
    (e.walk 0 e.start (xs ++ .call (.bare name memo) :: ys)).result =
        (e.walk (xs.length + 1) u ys).result ∧
      (e.walk 0 e.start (xs ++ .call (.bare name memo) :: ys)).traverse =
        (e.walk (xs.length + 1) u ys).traverse := by
  intro u
  obtain ⟨hres, htrav⟩ := walk_append_of_accepts hx (.call (.bare name memo) :: ys)
  have hmark : (e.evaluate e.start xs).traverse.marker.Spares name := by
    rw [(settled_evaluate hr xs).1]
    exact hm
  have hdoes := does_bare hr (accepts_iff.mp hx).2 hmark memo xs.length
  rw [hcall] at hdoes
  obtain ⟨s, hs, -⟩ := hdoes.of_ok hd
  rw [hres, htrav, walk_cons_of_ok hs, hdoes.traverse]
  exact ⟨rfl, rfl⟩

/-! ## Clearing -/

/-- A state and the same with its result emptied and its last result gone. -/
theorem sameBut_clear (t : Traverse) (index : Int) :
    Traverse.SameBut t.points t.stations 1 (Deed.clear.apply index t) t :=
  ⟨rfl, rfl, rfl, rfl, (List.append_nil _).symm, [], (List.append_nil _).symm, rfl⟩

/-- **Clearing keeps the course.** After items that an evaluation accepts, a call that clears the
result changes nothing for the items behind it: with it and without it they fail over the same or
not at all, and they leave the same symbols and positions, and the same last result where the first
of them is completed. With the call the result is what these items contribute; without it the
earlier points stand in front, unless the items empty the result themselves. (A binding call right
behind the clearing would name what is gone.) -/
theorem clearing_keeps_course (hr : e.procedures = .standard e.units)
    (hm : e.settings.marker.Spares Registry.clearName) (memo : String) {xs ys : List Item}
    (hx : e.Accepts e.start xs) (hy : ∀ b, ys.head? ≠ some (.call (.binding b))) :
    let u := (e.evaluate e.start xs).traverse
    let cleared := e.evaluate e.start (xs ++ .call (.bare Registry.clearName memo) :: ys)
    let whole := e.evaluate e.start (xs ++ ys)
    (∀ err, cleared.result = .error err ↔ whole.result = .error err) ∧
    cleared.traverse.symbols = whole.traverse.symbols ∧
    cleared.traverse.previous = whole.traverse.previous ∧
    cleared.traverse.current = whole.traverse.current ∧
    (e.Begins xs.length u ys → cleared.traverse.lastResult = whole.traverse.lastResult) ∧
    (¬e.Empties xs.length u ys → whole.traverse.points = u.points ++ cleared.traverse.points ∧
      ∃ later, whole.traverse.stations = u.stations ++ later ∧
        cleared.traverse.stations = later.map (Station.later 1)) ∧
    (e.Empties xs.length u ys → whole.traverse.points = cleared.traverse.points ∧
      cleared.traverse.stations = whole.traverse.stations.map (Station.later 1)) := by
  intro u cleared whole
  have hl : e.Logs := (accepts_iff.mp hx).2
  obtain ⟨hres, htrav⟩ := walk_append_bare hr hm hx (d := .clear) rfl (fun _ => rfl) memo ys
  obtain ⟨hres', htrav'⟩ := walk_append_of_accepts hx ys
  have halike : e.Alike u.points u.stations 1 xs.length (Deed.clear.apply xs.length u) u ys :=
    walk_alike hr (sameBut_clear u xs.length) (settled_evaluate hr xs).2
      fun b hb => absurd hb (hy b)
  rw [← traverse_evaluate] at htrav htrav'
  obtain ⟨hsame, hkept, hemptied, hlast⟩ := halike
  rw [← hres, ← hres'] at hsame
  rw [← htrav, ← htrav'] at hkept hemptied hlast
  have hboth : cleared.traverse.symbols = whole.traverse.symbols ∧
      cleared.traverse.previous = whole.traverse.previous ∧
      cleared.traverse.current = whole.traverse.current := by
    by_cases h : e.Empties xs.length u ys
    · exact ⟨(hemptied h).symbols, (hemptied h).previous, (hemptied h).current⟩
    · exact ⟨(hkept h).symbols, (hkept h).previous, (hkept h).current⟩
  refine ⟨fun err => ?_, hboth.1, hboth.2.1, hboth.2.2, fun h => hlast (.inr h), fun h => ?_,
    fun h => ?_⟩
  · rw [result_evaluate hl, result_evaluate hl, hsame]
    cases (e.walk 0 e.start (xs ++ ys)).result with
    | error err' => exact Iff.rfl
    | ok _ => exact iff_of_false (fun h => nomatch h) fun h => nomatch h
  · exact ⟨(hkept h).points, (hkept h).stations⟩
  · obtain ⟨-, -, -, -, hpoints, rest, hwhole, hcleared⟩ := hemptied h
    exact ⟨hpoints, by rw [hwhole]; exact hcleared⟩

/-- A point, a clearing and another point. -/
theorem clearing_keeps_course_points :
    let e : Evaluator := .standard .known .usual
    let xs : List Item := [.call (.point ⟨.ofInt 1, .ofInt 2, .text "1"⟩)]
    let ys : List Item := [.call (.point ⟨.ofInt 3, .ofInt 4, .text "2"⟩)]
    let u := (e.evaluate e.start xs).traverse
    let cleared := e.evaluate e.start (xs ++ .call (.bare Registry.clearName "") :: ys)
    let whole := e.evaluate e.start (xs ++ ys)
    e.Accepts e.start xs ∧ (∀ b, ys.head? ≠ some (.call (.binding b))) ∧
      whole.traverse.points = u.points ++ cleared.traverse.points ∧
      cleared.traverse.lastResult = whole.traverse.lastResult := by
  intro e xs ys u cleared whole
  have hx : e.Accepts e.start xs := ⟨_, rfl⟩
  have hy : ∀ b, ys.head? ≠ some (.call (.binding b)) := fun b hb => nomatch hb
  obtain ⟨-, -, -, -, hlast, hkept, -⟩ :=
    clearing_keeps_course (e := e) rfl (show Value.Spares _ _ from rfl) "" hx hy
  refine ⟨hx, hy, (hkept fun h => ?_).1, hlast ⟨_, _, rfl, rfl⟩⟩
  change e.Empties _ _ [_] at h
  rcases h with ⟨⟨a, ha, -⟩, -⟩ | ⟨-, h⟩
  · cases ha
  · cases h

/-- Where the first item behind a clearing fails, no other last result has come in for the one that
is gone. -/
theorem clearing_loses_lastResult :
    let e : Evaluator := .standard .known .usual
    let xs : List Item := [.call (.point ⟨.ofInt 1, .ofInt 2, .text "1"⟩)]
    let ys : List Item := [.call (.line ⟨.reference "b", .ofInt 3, .text "TRUE", .text ""⟩)]
    let cleared := e.evaluate e.start (xs ++ .call (.bare Registry.clearName "") :: ys)
    let whole := e.evaluate e.start (xs ++ ys)
    e.procedures = .standard e.units ∧ e.settings.marker.Spares Registry.clearName ∧
      e.Accepts e.start xs ∧ ys ≠ [] ∧ (∀ b, ys.head? ≠ some (.call (.binding b))) ∧
      cleared.traverse.lastResult ≠ whole.traverse.lastResult := by
  intro e xs ys cleared whole
  refine ⟨rfl, rfl, ⟨_, rfl⟩, List.cons_ne_nil _ _, (fun b hb => nomatch hb), ?_⟩
  have hcleared : cleared.traverse.lastResult = .nothing := rfl
  rw [hcleared]
  exact fun h => nomatch h

/-! ## Resetting -/

/-- Traverses that are the same but for positions, and their last results, are one traverse with
other positions. -/
theorem eq_later_of_sameBut {d : Nat} (h : Traverse.SameBut [] [] d t u)
    (hl : t.lastResult = u.lastResult) :
    t = { u with stations := u.stations.map (Station.later d) } := by
  obtain ⟨hm, hs, hp, hc, hpoints, rest, hu, ht⟩ := h
  cases t
  cases u
  simp_all

/-- **Resetting isolates what follows.** After items that an evaluation accepts, and a call that
resets the state, the items behind it come to what they come to alone, from the beginning: to the
same failure or to the same result, and in both cases to the same state. Only the stations stand as
many positions further on as there are items before them. -/
theorem resetting_isolates (hr : e.procedures = .standard e.units)
    (hm : e.settings.marker.Spares Registry.resetName) (memo : String) {xs : List Item}
    (hx : e.Accepts e.start xs) (ys : List Item) :
    let whole := e.evaluate e.start (xs ++ .call (.bare Registry.resetName memo) :: ys)
    let alone := e.evaluate e.start ys
    whole.result = (fun r : Result =>
        { r with stations := r.stations.map (Station.later (xs.length + 1)) }) <$> alone.result ∧
      whole.traverse = { alone.traverse with
        stations := alone.traverse.stations.map (Station.later (xs.length + 1)) } := by
  intro whole alone
  have hl : e.Logs := (accepts_iff.mp hx).2
  obtain ⟨hres, htrav⟩ := walk_append_bare hr hm hx (d := .reset) rfl (fun _ => rfl) memo ys
  -- what a reset leaves is where every evaluation begins
  have hstart : Deed.reset.apply xs.length (e.evaluate e.start xs).traverse = e.start :=
    congrArg Traverse.start (settled_evaluate hr xs).1
  have halike : e.Alike [] [] (xs.length + 1) 0 e.start e.start ys :=
    walk_alike hr (.refl _ _ rfl) (.start _) fun _ _ => rfl
  obtain ⟨hsame, hkept, hemptied, hlast⟩ := halike
  rw [hstart] at hres htrav
  rw [Nat.zero_add] at hsame hkept hemptied hlast
  rw [← hres] at hsame
  rw [← htrav, ← traverse_evaluate, ← traverse_evaluate] at hkept hemptied hlast
  have hstate : whole.traverse = { alone.traverse with
      stations := alone.traverse.stations.map (Station.later (xs.length + 1)) } := by
    refine eq_later_of_sameBut ?_ (hlast (.inl rfl))
    by_cases h : e.Empties 0 e.start ys
    · exact hemptied h
    · exact hkept h
  refine ⟨?_, hstate⟩
  rw [result_evaluate hl, result_evaluate hl, hsame]
  change (fun _ => Result.ofTraverse whole.traverse) <$> _ = _
  rw [hstate]
  cases (e.walk 0 e.start ys).result <;> rfl

/-- A binding call right behind a reset names nothing. -/
theorem resetting_isolates_binding :
    let e : Evaluator := .standard .known .usual
    let xs : List Item := [.call (.point ⟨.ofInt 1, .ofInt 2, .text "1"⟩)]
    let ys : List Item := [.call (.binding ⟨.text "a", .text ""⟩)]
    e.Accepts e.start xs ∧
      (e.evaluate e.start (xs ++ .call (.bare Registry.resetName "") :: ys)).traverse.symbols =
        (e.evaluate e.start ys).traverse.symbols := by
  intro e xs ys
  have hx : e.Accepts e.start xs := ⟨_, rfl⟩
  obtain ⟨-, hstate⟩ :=
    resetting_isolates (e := e) rfl (show Value.Spares _ _ from rfl) "" hx ys
  exact ⟨hx, by rw [hstate]⟩

end Evaluator

end MetesBounds
