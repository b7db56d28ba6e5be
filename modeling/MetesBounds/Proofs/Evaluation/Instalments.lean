import MetesBounds.Instruments.Known
import MetesBounds.Proofs.Evaluation.Memos

/-!
# `Evaluation/Instalments` — an evaluation can be cut in two

Nothing goes from one call to the next but the state. So items can be evaluated in instalments, each
on the state that the one before has left, and what comes of it is what comes of all of them at
once. Only positions are counted from the beginning of each instalment: the stations that the last
one has added stand as many positions further on in the whole as there are items before it, and
those that were there before it, if it has not emptied the result, stand where they stood.

An error is the same, too, unless a traverse stands in itself. Then the words of an error may show
its stations, and with them their positions; the kind of the error is the same.

Main statement: `Evaluator.evaluate_append`.
-/

set_option autoImplicit false

namespace MetesBounds

/-- Traverses that are the same but for their stations are one traverse with other stations. -/
theorem Traverse.Abreast.eq {t u : Traverse} (h : t.Abreast u) :
    u = { t with stations := u.stations } := by
  obtain ⟨hm, hs, hpoints, hp, hc, hl⟩ := h
  cases t
  cases u
  simp_all

namespace Evaluator

variable {e : Evaluator} {t : Traverse} {xs ys : List Item}

/-! ## Items that are not gone through -/

/-- An evaluator that cannot tell what it reports fails over all calls that can be written in the
same way. -/
theorem evaluate_of_not_logs (hl : ¬e.Logs) : ∃ err, ∀ t items,
    (∀ item ∈ items, ∃ c, item = .call c ∧ c.isOverlong = false) →
      (e.evaluate t items).result = .error err ∧ (e.evaluate t items).traverse = t := by
  obtain ⟨err, herr⟩ := note_of_not_logs hl
  refine ⟨err, fun t items hcalls => ?_⟩
  cases items with
  | nil => simp only [evaluate, resultOf, runFrom, finish, herr]; exact ⟨rfl, rfl⟩
  | cons item rest =>
    obtain ⟨c, rfl, hlong⟩ := hcalls item List.mem_cons_self
    have hstep : e.step t (.call c) (0 : Nat) = .failed t err := by
      rw [step, announce_of_not_overlong hlong, herr]
    have hres : (e.step t (.call c) (0 : Nat)).result = .error err := by rw [hstep]; rfl
    obtain ⟨hw, htrav⟩ := walk_cons_of_error hres rest
    rw [evaluate_of_walk_error hw, resultOf, hw, htrav, hstep]
    exact ⟨rfl, rfl⟩

/-- Items that are not gone through decide the whole. -/
theorem evaluate_append_of_not_accepts
    (hl : e.Logs ∨ ∀ item ∈ xs ++ ys, ∃ c, item = .call c ∧ c.isOverlong = false)
    (hx : ¬e.Accepts t xs) : (e.evaluate t (xs ++ ys)).Agrees (e.evaluate t xs) := by
  by_cases hlogs : e.Logs
  · cases hw : (e.walk 0 t xs).result with
    | ok _ => exact absurd (accepts_iff.mpr ⟨hw, hlogs⟩) hx
    | error err =>
      rw [evaluate_append_of_error hw ys, evaluate_of_walk_error hw]
      exact .refl _
  · have hcalls := hl.resolve_left hlogs
    obtain ⟨err, herr⟩ := evaluate_of_not_logs hlogs
    obtain ⟨hres, htrav⟩ := herr t (xs ++ ys) hcalls
    obtain ⟨hres', htrav'⟩ := herr t xs fun item h => hcalls item (List.mem_append_left ys h)
    exact ⟨hres.trans hres'.symm, htrav.trans htrav'.symm⟩

/-! ## Items that are -/

/-- The steps for items on one traverse, counted from two positions. -/
theorem inStep_later (hr : e.procedures = .standard e.units) (t : Traverse) (ys : List Item)
    (n : Nat) :
    e.InStep (fun s s' => s.IsOf ys ∧ s.later n = s') t.stations 0 n t t ys ys := by
  refine inStep hr (List.forall₂_same.mpr fun item _ => .refl item) (.refl t) (.refl _ _) ?_
  intro k item item' hk hk' p label label' hl hl'
  obtain rfl : item = item' := Option.some.inj (hk.symm.trans hk')
  obtain ⟨c, rfl, hc⟩ := hl
  obtain ⟨c', hcall, hc'⟩ := hl'
  cases hcall
  obtain rfl : label = label' := Except.ok.inj (hc.symm.trans hc')
  rw [Nat.zero_add]
  refine ⟨⟨k, .call c, rfl, hk, c, rfl, hc⟩, ?_⟩
  rw [Station.later, Nat.add_comm n k]
  rfl

/-- Where no traverse stands in what is held, the errors are the same from whatever position the
items are counted. -/
theorem result_walk_later (hr : e.procedures = .standard e.units) (ht : t.Settled) (ys : List Item)
    (n : Nat) : (e.walk n t ys).result = (e.walk 0 t ys).result := by
  -- both are like the run that begins without points and stations and is counted from `n`
  let bare : Traverse := { t with points := [], stations := [] }
  have hsame (d : Nat) : Traverse.SameBut t.points t.stations d bare t :=
    ⟨rfl, rfl, rfl, rfl, (List.append_nil _).symm, [], (List.append_nil _).symm, rfl⟩
  have hthere : (e.walk (n + 0) bare ys).result = (e.walk n t ys).result :=
    (walk_alike hr (hsame 0) ht fun _ _ => rfl).result
  have hhere : (e.walk (0 + n) bare ys).result = (e.walk 0 t ys).result :=
    (walk_alike hr (hsame n) ht fun _ _ => rfl).result
  rw [Nat.zero_add] at hhere
  exact hthere.symm.trans hhere

/-- What the steps for items leave behind other items, and what they leave alone: the same but for
the positions of what they have added. -/
theorem exists_made (hr : e.procedures = .standard e.units) (t : Traverse) (ys : List Item)
    (n : Nat) :
    ∃ kept made, (¬e.Empties 0 t ys → kept = t.stations) ∧ (e.Empties 0 t ys → kept = []) ∧
      (∀ s ∈ made, s.IsOf ys) ∧ (e.walk 0 t ys).traverse.stations = kept ++ made ∧
      (e.walk n t ys).traverse = { (e.walk 0 t ys).traverse with
        stations := kept ++ made.map (Station.later n) } := by
  have hrun := inStep_later hr t ys n
  obtain ⟨kept, hnot, hempties, made, made', hmade, hmade', hpairs⟩ : ∃ kept,
      (¬e.Empties 0 t ys → kept = t.stations) ∧ (e.Empties 0 t ys → kept = []) ∧
        GoOn (fun s s' => s.IsOf ys ∧ s.later n = s') kept (e.walk 0 t ys).traverse.stations
          (e.walk n t ys).traverse.stations := by
    by_cases h : e.Empties 0 t ys
    · exact ⟨[], fun hnot => absurd h hnot, fun _ => rfl, hrun.emptied h⟩
    · exact ⟨t.stations, fun _ => rfl, fun hempties => absurd hempties h, hrun.kept h⟩
  obtain ⟨hof, hlater⟩ := (List.forall₂_and_left made made').mp hpairs
  have heq : made.map (Station.later n) = made' :=
    List.forall₂_eq_eq_eq ▸ List.forall₂_map_left_iff.mpr hlater
  refine ⟨kept, made, hnot, hempties, hof, hmade, ?_⟩
  rw [heq, ← hmade']
  exact hrun.traverse.eq

/-- **Evaluation in instalments is evaluation at once.** Take items in two parts, calls or anything
else that the evaluator can report on, and any state. Where the first part is not gone through, the
whole comes to what it comes to. Otherwise the whole leaves what the second part leaves on the state
behind the first, and ends as it does: with a result or with an error of the same class. Only
stations differ. Those from before, which both keep unless the second part empties the result,
stand where they stood, and each that the second part adds stands as many positions further on as the
first part is long. The error is the same in every word if no traverse stands in what the state
holds. -/
theorem evaluate_append (hr : e.procedures = .standard e.units)
    (hl : e.Logs ∨ ∀ item ∈ xs ++ ys, ∃ c, item = .call c ∧ c.isOverlong = false)
    (t : Traverse) :
    let whole := e.evaluate t (xs ++ ys)
    let first := e.evaluate t xs
    let second := e.evaluate first.traverse ys
    (¬e.Accepts t xs → whole.Agrees first) ∧
      (e.Accepts t xs → ∃ kept made,
        (¬e.Empties 0 first.traverse ys → kept = first.traverse.stations) ∧
        (e.Empties 0 first.traverse ys → kept = []) ∧
        (∀ s ∈ made, s.IsOf ys) ∧
        second.traverse.stations = kept ++ made ∧
        whole.traverse = { second.traverse with
          stations := kept ++ made.map (Station.later xs.length) } ∧
        Akin (fun r r' => r' = .ofTraverse second.traverse ∧
            r = { r' with stations := kept ++ made.map (Station.later xs.length) })
          whole.result second.result ∧
        (t.Settled → whole.result = (fun r : Result =>
            { r with stations := kept ++ made.map (Station.later xs.length) }) <$>
          second.result)) := by
  intro whole first second
  refine ⟨evaluate_append_of_not_accepts hl, fun hx => ?_⟩
  have hlogs : e.Logs := (accepts_iff.mp hx).2
  obtain ⟨hres, htrav⟩ := walk_append_of_accepts hx ys
  obtain ⟨kept, made, hnot, hempties, hof, hsecond, hwhole⟩ :=
    exists_made hr first.traverse ys xs.length
  rw [← htrav] at hwhole
  have hsteps := (inStep_later hr first.traverse ys xs.length).result.swap
  rw [← hres] at hsteps
  have hstate : whole.traverse = { second.traverse with
      stations := kept ++ made.map (Station.later xs.length) } := by
    simp only [whole, second, traverse_evaluate]
    exact hwhole
  refine ⟨kept, made, hnot, hempties, hof, ?_, hstate, ?_, fun ht => ?_⟩
  · simp only [second, traverse_evaluate]
    exact hsecond
  · refine (akin_evaluate (hsteps.mono fun _ _ h => h.symm)).mono fun r r' h => ⟨h.2, ?_⟩
    rw [h.1, h.2]
    change Result.ofTraverse whole.traverse = _
    rw [hstate]
    rfl
  · -- the standard procedures put no traverse where there was none
    have hsettled : first.traverse.Settled :=
      evaluate_preserves hr (P := Traverse.Settled) (fun _ d index h => h.apply d index) ht xs
    rw [result_evaluate hlogs, result_evaluate hlogs, hres, result_walk_later hr hsettled]
    change (fun _ => Result.ofTraverse whole.traverse) <$> _ = _
    rw [hstate]
    cases (e.walk 0 first.traverse ys).result <;> rfl

/-- A point, and then a second instalment that empties the result before it goes on to another. -/
theorem evaluate_append_cleared :
    let e : Evaluator := .standard .known .usual
    let xs : List Item := [.call (.point ⟨.ofInt 1, .ofInt 2, .text "1"⟩)]
    let ys : List Item := [.call (.procedure ⟨.text Registry.clearName, .row [], .text ""⟩),
      .call (.point ⟨.ofInt 3, .ofInt 4, .text "2"⟩)]
    let second := e.evaluate (e.evaluate e.start xs).traverse ys
    e.Logs ∧ e.Accepts e.start xs ∧
      (e.evaluate e.start (xs ++ ys)).traverse = { second.traverse with
        stations := second.traverse.stations.map (Station.later xs.length) } := by
  intro e xs ys second
  have hl : e.Logs := ⟨_, rfl⟩
  have hx : e.Accepts e.start xs := ⟨_, rfl⟩
  have hreports : e.Logs ∨ ∀ item ∈ xs ++ ys, ∃ c, item = .call c ∧ c.isOverlong = false :=
    .inl hl
  obtain ⟨kept, made, -, hempties, -, hsecond, hwhole, -⟩ :=
    (evaluate_append rfl hreports e.start).2 hx
  have hkept : kept = [] := hempties (.here ⟨_, rfl, .inl rfl⟩ ⟨_, rfl⟩)
  rw [hkept, List.nil_append] at hsecond hwhole
  refine ⟨hl, hx, hwhole.trans ?_⟩
  rw [← hsecond]

/-! ## What an error may show -/

/-- A line whose direction is the traverse itself fails, and the error shows the traverse. -/
theorem step_of_self_direction {c c' : LineCall} {p : Point} (ha : e.Announces (.line c))
    (hs : t.substitute (.line c) = .ok (.line c')) (hc : t.current = some p)
    (hd : c'.direction = .running t.written?) (hlong : t.isOverlong = false) (index : Int) :
    (e.step t (.call (.line c)) index).result = .error (.badDirection t.shown) := by
  have hdirection : directionOfValue c'.direction = .error (.badDirection t.shown) := by
    rw [hd, t.isCompound_written?.directionOfValue_eq, Traverse.written?, hlong]
    rfl
  have hend : e.lineEnd t c' = .error (.badDirection t.shown) := by
    rw [lineEnd, hc, bearingOf, hdirection]
    rfl
  have hperform : (e.perform t (.line c)).result = .error (.badDirection t.shown) := by
    rw [perform_of_ne_binding (Call.ne_binding_of_locates rfl), hs]
    simp only [act, hend]
    rfl
  rw [(step_of_announces ha t index).1]
  exact (complete_of_error hperform index).1

/-- The position of a station can be told from how it is shown. -/
theorem index_of_shown {label : String} {p : Point} {i j : Int}
    (h : Station.shown ⟨label, p, i⟩ = Station.shown ⟨label, p, j⟩) : toString i = toString j := by
  unfold Station.shown at h
  exact (String.append_right_inj _).mp ((String.append_left_inj _).mp h)

/-- The position of a station can be told from how the traverse is shown that it is the only one
of. -/
theorem index_of_shown_only {label : String} {p : Point} {i j : Int}
    (h : { t with stations := [⟨label, p, i⟩] }.shown =
      { t with stations := [⟨label, p, j⟩] }.shown) : toString i = toString j := by
  unfold Traverse.shown at h
  simp only [String.append_left_inj, String.append_right_inj] at h
  exact index_of_shown h

theorem shown_of_recorded {s s' : String}
    (h : (Error.badDirection s).recorded = (Error.badDirection s').recorded) : s = s' := by
  have hrecorded (s : String) : (Error.badDirection s).recorded =
      "UnknownDirectionError" ++ ": " ++ ("Unknown direction: " ++ s) := rfl
  rw [hrecorded, hrecorded] at h
  exact (String.append_right_inj _).mp ((String.append_right_inj _).mp h)

/-- **A traverse that stands in itself may be shown in an error**, and with it the positions of its
stations: that of the point is 1 in the whole and 0 in the second instalment. -/
theorem instalments_show_positions :
    let e : Evaluator := .standard .known .usual
    let t := e.start.bind (.named "me") (.running none)
    let xs : List Item := [.call (.procedure ⟨.text Registry.clearName, .row [], .text ""⟩)]
    let ys : List Item := [.call (.point ⟨.ofInt 1, .ofInt 2, .text "1"⟩),
      .call (.line ⟨.ofInt 0, .ofInt 3, .reference "me", .text ""⟩)]
    e.Logs ∧ e.Accepts t xs ∧
      ∃ err err', (e.evaluate t (xs ++ ys)).result = .error err ∧
        (e.evaluate (e.evaluate t xs).traverse ys).result = .error err' ∧
        err.recorded ≠ err'.recorded := by
  intro e t xs ys
  have hl : e.Logs := ⟨_, rfl⟩
  let line : LineCall := ⟨.ofInt 0, .ofInt 3, .reference "me", .text ""⟩
  let p : Point := ⟨.real (Float.ofInt 1), .real (Float.ofInt 2), 0⟩
  let found (i : Int) : Traverse :=
    { t with points := [p], stations := [⟨"P1", p, i⟩], current := some p, lastResult := .point p }
  have hfails {u : Traverse} {items : List Item} {k : Nat} {i : Int}
      (hk : items[k]? = some (.call (.line line)))
      (hw : (e.walk 0 u (items.take k)).result = .ok ()) (hu : e.before u items k = found i) :
      (e.evaluate u items).result = .error (.badDirection (found i).shown) := by
    refine (evaluate_of_step_error hk hw ?_).1
    rw [hu]
    exact step_of_self_direction ⟨rfl, hl⟩ rfl rfl rfl rfl k
  refine ⟨hl, ⟨_, rfl⟩, _, _, hfails (k := 2) (i := 1) rfl rfl rfl,
    hfails (k := 1) (i := 0) rfl rfl rfl, fun h => ?_⟩
  have hindex : toString (1 : Int) = toString (0 : Int) :=
    index_of_shown_only (t := found 0) (shown_of_recorded h)
  exact absurd hindex (by decide)

end Evaluator

end MetesBounds
