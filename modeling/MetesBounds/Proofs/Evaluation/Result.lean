import MetesBounds.Instruments.Known
import MetesBounds.Proofs.Evaluation.Run
import MetesBounds.Proofs.Traverse.Coherent

/-!
# `Evaluation/Result` — how a result corresponds to the items evaluated

The points of a result are what the calls that lead to points have given since the result was last
emptied, each with the label and the position of its call. `Evaluator.located` reads the positions
off the items, without evaluating anything; `Evaluator.Accounted` says that a result and a start of
that reading belong together.

Main statement: `Evaluator.evaluate_accounted`.
-/

set_option autoImplicit false

namespace MetesBounds

/-! ## Reading the items -/

/-- Whether the item at a position is a call that leads to a point. -/
def locatesAt (items : List Item) (k : Nat) : Bool :=
  match items[k]? with
  | some (.call c) => c.locates
  | _ => false

/-- The label of the call at a position: the letter of its kind with its memo behind it. -/
def labelAt (items : List Item) (k : Nat) : Option String :=
  match items[k]? with
  | some (.call c) =>
    match c.memo with
    | .text memo => some (c.kind.tag ++ memo)
    | _ => none
  | _ => none

theorem labelAt_eq_some {items : List Item} {k : Nat} {c : Call} {label : String}
    (hk : items[k]? = some (.call c)) (hl : c.label = .ok label) :
    labelAt items k = some label := by
  rw [labelAt, hk]
  dsimp only
  rw [Call.label] at hl
  generalize c.memo = memo at hl ⊢
  cases memo with
  | text memo =>
    cases hl
    rfl
  | _ => cases hl

/-- The positions from `s` up to `k` whose calls lead to a point, in order. -/
def located (items : List Item) (s k : Nat) : List Nat :=
  (List.range k).filter fun i => decide (s ≤ i) && locatesAt items i

theorem located_succ {items : List Item} {s k : Nat} (hs : s ≤ k) :
    located items s (k + 1) = located items s k ++ if locatesAt items k then [k] else [] := by
  rw [located, List.range_succ, List.filter_append, ← located]
  simp [hs, List.filter_cons]

theorem mem_located {items : List Item} {s k i : Nat} :
    i ∈ located items s k ↔ s ≤ i ∧ i < k ∧ locatesAt items i = true := by
  simp [located, and_left_comm]

theorem located_self (items : List Item) (k : Nat) : located items k k = [] := by
  refine List.eq_nil_iff_forall_not_mem.mpr fun i hi => ?_
  obtain ⟨hki, hik, -⟩ := mem_located.mp hi
  exact Nat.not_lt_of_le hki hik

theorem located_sorted (items : List Item) (s k : Nat) : (located items s k).Pairwise (· < ·) :=
  List.pairwise_lt_range.filter _

/-! ## First positions of a label -/

namespace Result

variable {r : Result} {label : String}

/-- A label is looked for among the labels of the stations. -/
theorem indexOf_eq (r : Result) (label : String) : r.indexOf label =
    match (r.stations.map Station.label).findIdx? (· == label) with
    | some i => .ok i
    | none => .error (.noStation (Text.quoted label)) := by
  rw [indexOf, List.findIdx?_map]
  rfl

theorem indexOf_eq_ok {j : Nat} : r.indexOf label = .ok j ↔
    (r.stations.map Station.label)[j]? = some label ∧
      ∀ i < j, (r.stations.map Station.label)[i]? ≠ some label := by
  have hfind : r.indexOf label = .ok j ↔
      (r.stations.map Station.label).findIdx? (· == label) = some j := by
    rw [indexOf_eq]
    cases (r.stations.map Station.label).findIdx? (· == label) <;> simp
  rw [hfind, List.findIdx?_eq_some_iff_getElem]
  constructor
  · rintro ⟨hj, hlabel, hbefore⟩
    refine ⟨List.getElem?_eq_some_iff.mpr ⟨hj, eq_of_beq hlabel⟩, fun i hi hlabel => ?_⟩
    obtain ⟨hi', hlabel⟩ := List.getElem?_eq_some_iff.mp hlabel
    exact hbefore i hi (beq_iff_eq.mpr hlabel)
  · rintro ⟨hlabel, hbefore⟩
    obtain ⟨hj, hlabel⟩ := List.getElem?_eq_some_iff.mp hlabel
    refine ⟨hj, beq_iff_eq.mpr hlabel, fun i hi hlabel => hbefore i hi ?_⟩
    exact List.getElem?_eq_some_iff.mpr ⟨Nat.lt_trans hi hj, eq_of_beq hlabel⟩

theorem indexOf_eq_error {err : Error} : r.indexOf label = .error err ↔
    label ∉ r.stations.map Station.label ∧ err = .noStation (Text.quoted label) := by
  have hnone : label ∉ r.stations.map Station.label ↔
      (r.stations.map Station.label).findIdx? (· == label) = none := by
    rw [List.findIdx?_eq_none_iff]
    constructor
    · intro h l hl
      exact beq_eq_false_iff_ne.mpr fun hlabel => h (hlabel ▸ hl)
    · intro h hl
      exact beq_eq_false_iff_ne.mp (h label hl) rfl
  rw [hnone, indexOf_eq]
  cases (r.stations.map Station.label).findIdx? (· == label) <;> simp [eq_comm]

/-- The point for a label is the one at its first position, where each station has its point. -/
theorem pointFor_of_indexOf {j : Nat} (hs : r.stations.map Station.point = r.points)
    (h : r.indexOf label = .ok j) : ∃ p, r.points[j]? = some p ∧ r.pointFor label = .ok p := by
  obtain ⟨hl, -⟩ := indexOf_eq_ok.mp h
  rw [List.getElem?_map, Option.map_eq_some_iff] at hl
  obtain ⟨st, hst, -⟩ := hl
  have hp : r.points[j]? = some st.point := by
    rw [← hs, List.getElem?_map, hst]
    rfl
  refine ⟨st.point, hp, bind_eq_ok.mpr ⟨j, h, ?_⟩⟩
  rw [hp]

theorem pointFor_of_error {err : Error} (h : r.indexOf label = .error err) :
    r.pointFor label = .error err := bind_eq_error.mpr (.inl h)

end Result

namespace Evaluator

variable {e : Evaluator} {t : Traverse} {items : List Item}

/-! ## Accounting for the stations -/

/-- Whether the item at a position comes to a call of a procedure that empties the result. -/
def EmptiesAt (e : Evaluator) (t : Traverse) (items : List Item) (k : Nat) : Prop :=
  ∃ item a, items[k]? = some item ∧ (e.before t items k).asked? item = some a ∧
    (a.name = .text Registry.clearName ∨ a.name = .text Registry.resetName)

/-- The station that the call at a position has led to. -/
def stationAt (e : Evaluator) (t : Traverse) (items : List Item) (k : Nat) : Option Station :=
  match labelAt items k, e.valueAt t items k with
  | some label, some (.point p) => some ⟨label, p, k⟩
  | _, _ => none

/-- Where the last emptying before `k` ends: at `s`, which is the beginning if there is none. -/
def EmptiedLast (e : Evaluator) (t : Traverse) (items : List Item) (k s : Nat) : Prop :=
  s ≤ k ∧ (s = 0 ∨ e.EmptiesAt t items (s - 1)) ∧ ∀ i, s ≤ i → i < k → ¬e.EmptiesAt t items i

/-- The stations of a state are those of the calls since the last emptying. -/
def Stationed (e : Evaluator) (t : Traverse) (items : List Item) (k : Nat) (u : Traverse) : Prop :=
  u.Coherent ∧ ∃ s, e.EmptiedLast t items k s ∧
    (located items s k).map (e.stationAt t items) = u.stations.map some

/-- A call that comes to nothing that empties goes on with the same start. -/
theorem EmptiedLast.succ {k s : Nat} (h : e.EmptiedLast t items k s)
    (hk : ¬e.EmptiesAt t items k) : e.EmptiedLast t items (k + 1) s := SinceLast.succ h hk

/-- A call that empties the result starts anew behind it. -/
theorem EmptiedLast.of_empties {k : Nat} (hk : e.EmptiesAt t items k) :
    e.EmptiedLast t items (k + 1) (k + 1) := SinceLast.of_holds hk

theorem not_emptiesAt {item : Item} {k : Nat} (hk : items[k]? = some item)
    (h : ∀ a, (e.before t items k).asked? item = some a →
      a.name ≠ .text Registry.clearName ∧ a.name ≠ .text Registry.resetName) :
    ¬e.EmptiesAt t items k :=
  not_asked_at hk fun a ha => not_or.mpr (h a ha)

theorem locatesAt_call {c : Call} {k : Nat} (hk : items[k]? = some (.call c)) :
    locatesAt items k = c.locates := by
  rw [locatesAt, hk]

/-- The stations after a step that neither adds a point nor empties the result. -/
theorem map_located_of_kept {k s : Nat} (hs : s ≤ k) (hk : locatesAt items k = false) :
    (located items s (k + 1)).map (e.stationAt t items) =
      (located items s k).map (e.stationAt t items) := by
  rw [located_succ hs, hk, if_neg Bool.false_ne_true, List.append_nil]

/-- **What one step does to the stations** is what the reading of the items says of its
position. -/
theorem stationed_succ {k : Nat} {item : Item} {v : Value} {u : Traverse}
    (hk : items[k]? = some item) (hv : e.valueAt t items k = some v)
    (ht : e.Stationed t items k (e.before t items k))
    (hs : Stepped (e.before t items k) k item v u) : e.Stationed t items (k + 1) u := by
  obtain ⟨hco, s, hlast, hmap⟩ := ht
  cases hs with
  | bound c sym hsym =>
    refine ⟨hco.bind sym _, s, hlast.succ (not_emptiesAt hk fun a ha => ?_), ?_⟩
    · cases Traverse.kind_of_asked? ha
    · rw [map_located_of_kept hlast.1 (locatesAt_call hk)]
      exact hmap
  | found c hc label hl p =>
    refine ⟨(hco.lastResult _).advance p label k, s,
      hlast.succ (not_emptiesAt hk fun a ha => ?_), ?_⟩
    · rw [Traverse.locates_of_asked? ha] at hc
      cases hc
    · have hlabel : labelAt items k = some label := labelAt_eq_some hk hl
      have hstation : e.stationAt t items k = some ⟨label, p, k⟩ := by
        rw [stationAt, hlabel, hv]
      rw [located_succ hlast.1, locatesAt_call hk, if_pos hc, List.map_append, hmap]
      simp [hstation]
  | reckoned c a ha hc hr x =>
    refine ⟨hco.lastResult _, s, hlast.succ (not_emptiesAt hk fun a' ha' => ?_), ?_⟩
    · rw [ha] at ha'
      cases ha'
      exact ⟨hc, hr⟩
    · rw [map_located_of_kept hlast.1 ((locatesAt_call hk).trans (Traverse.locates_of_asked? ha))]
      exact hmap
  | cleared c a ha hn =>
    -- both sides are empty: nothing has been located since, and no station is left
    refine ⟨hco.clearPoints.lastResult _, k + 1, .of_empties ⟨_, a, hk, ha, .inl hn⟩, ?_⟩
    rw [located_self]
    rfl
  | reset c a ha hn =>
    refine ⟨.reset, k + 1, .of_empties ⟨_, a, hk, ha, .inr hn⟩, ?_⟩
    rw [located_self]
    rfl

/-! ## The result of an evaluation -/

/-- What a result reports of the items evaluated, from the position `s` on. -/
structure Accounted (e : Evaluator) (t : Traverse) (items : List Item) (s : Nat) (r : Result) :
    Prop where
  /-- Nothing after `s` has emptied the result, and only what stands right before `s` has. -/
  emptied : e.EmptiedLast t items items.length s
  /-- The points are the values of the calls that lead to points, in order. -/
  points : (located items s items.length).map (e.valueAt t items) =
    r.points.map fun p => some (.point p)
  /-- There is one station to each point. -/
  stations : r.stations.map Station.point = r.points
  /-- Each station has the label of its call. -/
  labels : (located items s items.length).map (labelAt items) =
    r.stations.map fun s => some s.label
  /-- Each station has the position of its call. -/
  indices : (located items s items.length).map Int.ofNat = r.stations.map Station.index
  /-- The positions go up. -/
  increasing : (r.stations.map Station.index).Pairwise (· < ·)
  /-- A label is found at the first call that has it. -/
  found : ∀ label j, r.indexOf label = .ok j ↔
    ((located items s items.length).map (labelAt items))[j]? = some (some label) ∧
      ∀ i < j, ((located items s items.length).map (labelAt items))[i]? ≠ some (some label)
  /-- A label is missed just where no call has it. -/
  missed : ∀ label err, r.indexOf label = .error err ↔
    (∀ i ∈ located items s items.length, labelAt items i ≠ some label) ∧
      err = .noStation (Text.quoted label)
  /-- The point for a label is what the first call that has it has given. -/
  pointFor : ∀ label j, r.indexOf label = .ok j → ∃ p, r.pointFor label = .ok p ∧
    ((located items s items.length).map (e.valueAt t items))[j]? = some (some (.point p))
  /-- There is no point for a label that is missed. -/
  pointless : ∀ label err, r.indexOf label = .error err → r.pointFor label = .error err

/-- What a function makes of some values can be read off what they are. -/
theorem map_eq_map_of_some {α β γ : Type} {f : α → Option β} {g : α → γ} {h : β → γ}
    (hfg : ∀ a b, f a = some b → g a = h b) {l : List α} {m : List β}
    (hlm : l.map f = m.map some) : l.map g = m.map h := by
  induction l generalizing m with
  | nil =>
    cases m with
    | nil => rfl
    | cons => cases hlm
  | cons a l ih =>
    cases m with
    | nil => cases hlm
    | cons b m =>
      obtain ⟨hab, hlm⟩ := List.cons.inj hlm
      rw [List.map_cons, List.map_cons, hfg a b hab, ih hlm]

theorem stationAt_eq_some {k : Nat} {st : Station} (h : e.stationAt t items k = some st) :
    labelAt items k = some st.label ∧ e.valueAt t items k = some (.point st.point) ∧
      st.index = k := by
  rw [stationAt] at h
  split at h
  · next hl hv => cases h; exact ⟨hl, hv, rfl⟩
  · cases h

section Reading

variable {l : List Nat} {sts : List Station}

theorem map_valueAt (h : l.map (e.stationAt t items) = sts.map some) :
    l.map (e.valueAt t items) = sts.map fun st => some (.point st.point) :=
  map_eq_map_of_some (fun _ _ h => (stationAt_eq_some h).2.1) h

theorem map_labelAt (h : l.map (e.stationAt t items) = sts.map some) :
    l.map (labelAt items) = sts.map fun st => some st.label :=
  map_eq_map_of_some (fun _ _ h => (stationAt_eq_some h).1) h

theorem map_index (h : l.map (e.stationAt t items) = sts.map some) :
    l.map Int.ofNat = sts.map Station.index :=
  map_eq_map_of_some (fun _ _ h => (stationAt_eq_some h).2.2.symm) h

/-- The calls and the stations have the same labels at the same places. -/
theorem labelAt_getElem? (h : l.map (e.stationAt t items) = sts.map some) (label : String)
    (j : Nat) : (l.map (labelAt items))[j]? = some (some label) ↔
      (sts.map Station.label)[j]? = some label := by
  rw [map_labelAt h, List.getElem?_map, List.getElem?_map]
  simp

theorem mem_labels (h : l.map (e.stationAt t items) = sts.map some) (label : String) :
    label ∈ sts.map Station.label ↔ ∃ i ∈ l, labelAt items i = some label := by
  rw [← List.mem_map, map_labelAt h, List.mem_map, List.mem_map]
  simp

end Reading

/-- What the stations come from accounts for a result. -/
theorem Stationed.accounted {u : Traverse} (h : e.Stationed t items items.length u) :
    ∃ s, e.Accounted t items s (.ofTraverse u) := by
  obtain ⟨hco, s, hlast, hmap⟩ := h
  have hpoints : (located items s items.length).map (e.valueAt t items) =
      u.points.map fun p => some (.point p) := by
    rw [map_valueAt hmap, ← hco.stations, List.map_map]
    rfl
  refine ⟨s, hlast, hpoints, hco.stations, map_labelAt hmap, map_index hmap, ?_, ?_, ?_, ?_, ?_⟩
  · change (u.stations.map Station.index).Pairwise (· < ·)
    rw [← map_index hmap, List.pairwise_map]
    exact (located_sorted items s _).imp fun h => Int.ofNat_lt.mpr h
  · intro label j
    simp only [Result.indexOf_eq_ok, ne_eq, labelAt_getElem? hmap]
    rfl
  · intro label err
    rw [Result.indexOf_eq_error]
    refine and_congr ?_ Iff.rfl
    change label ∉ u.stations.map Station.label ↔ _
    rw [mem_labels hmap]
    simp only [not_exists, not_and, ne_eq]
  · intro label j hj
    obtain ⟨p, hp, hfor⟩ := Result.pointFor_of_indexOf hco.stations hj
    refine ⟨p, hfor, ?_⟩
    rw [hpoints, List.getElem?_map]
    exact congrArg (Option.map _) hp
  · intro label err
    exact Result.pointFor_of_error

/-- **The result of an evaluation corresponds to its items**: from the last emptying on, its points
are the values of the calls that lead to points, in order, with their labels and positions. -/
theorem evaluate_accounted (hr : e.procedures = .standard e.units) {r : Result}
    (h : (e.evaluate e.start items).result = .ok r) :
    ∃ s, e.Accounted e.start items s r := by
  have ha : e.Accepts e.start (items.take items.length) := ⟨r, by rw [List.take_length]; exact h⟩
  have hstart : e.Stationed e.start items 0 e.start :=
    ⟨.start _, 0, ⟨Nat.le_refl 0, .inl rfl, fun i _ hi => absurd hi (Nat.not_lt_zero i)⟩, rfl⟩
  have hend := before_induction hr hstart (fun _ _ _ _ hk hv ht hs => stationed_succ hk hv ht hs)
    (Nat.le_refl items.length) ha
  rw [before, List.take_length, traverse_evaluate] at hend
  rw [(evaluate_eq_ok.mp h).2.2]
  exact hend.accounted

/-- Instruments of who measures in meters alone and keeps to the meridians of a sphere on which a
meter along one is a degree. -/
def onMeridians : Instruments where
  units := {
    unit := fun _ v =>
      match v with
      | .text "meter" => .ok ⟨[("meter", .whole 1)]⟩
      | v => .error (.undefinedUnit v.plain)
    dimension := fun _ => .ok Dimension.length
    inMetres := fun x _ => .ok x }
  spheres := {
    greatCircles := fun _ => .ok {
      forward := fun latitude longitude bearing distance =>
        (if bearing == 180.0 then latitude - distance else latitude + distance, longitude)
      inverse := fun latitude _ latitude' _ =>
        if latitude ≤ latitude' then ⟨0.0, 180.0, latitude' - latitude⟩
        else ⟨180.0, 0.0, latitude - latitude'⟩ } }

/-- A leg before a clearing and a course behind it: two legs and a curve between them, the point at
the start named and stated again at the end. Labels come up twice. -/
theorem evaluate_accounted_clearing :
    let e : Evaluator := .standard onMeridians
      { Settings.usual with sphereRadius := .real 57.29577951308232, distanceUnit := .text "meter" }
    let leg : Item :=
      .call (.line ⟨.text "N0 0 0E", .ofInt 1, .text "TRUE", .text "2"⟩)
    let items : List Item := [
      .call (.point ⟨.ofInt 0, .ofInt 0, .text "1"⟩), leg,
      .call (.procedure ⟨.text "clearDestinationPoints", .row [], .text ""⟩),
      .call (.point ⟨.ofInt 10, .ofInt 20, .text "1"⟩),
      .call (.binding ⟨.text "a", .text "1"⟩), leg,
      .call (.curve ⟨.nothing, .text "TRUE", .ofInt 1, .ofInt 180, .ofInt 0, .text "2"⟩), leg,
      .call (.point ⟨.ofInt 10, .ofInt 20, .text "1"⟩)]
    ∃ r, (e.evaluate e.start items).result = .ok r ∧ (∃ s, e.Accounted e.start items s r) ∧
      r.stations.map Station.label = ["P1", "L2", "C2", "L2", "P1"] ∧
      r.stations.map Station.index = [3, 5, 6, 7, 8] ∧
      (r.indexOf "L2").toOption = some 1 ∧ (r.indexOf "L1").toOption = none := by
  intro e leg items
  have hlabels : (e.evaluate e.start items).result.toOption.map (fun r =>
      (r.stations.map Station.label, r.stations.map Station.index,
        (r.indexOf "L2").toOption, (r.indexOf "L1").toOption)) =
      some (["P1", "L2", "C2", "L2", "P1"], [3, 5, 6, 7, 8], some 1, none) := by
    decide +kernel
  obtain ⟨r, hr⟩ : ∃ r, (e.evaluate e.start items).result = .ok r :=
    exists_eq_ok (by decide +kernel)
  simp only [hr, Except.toOption, Option.map_some, Option.some.injEq, Prod.mk.injEq] at hlabels
  exact ⟨r, hr, evaluate_accounted (e := e) rfl hr, hlabels⟩

end Evaluator

end MetesBounds
