import MetesBounds.Proofs.Evaluation.Result
import MetesBounds.Proofs.Evaluation.Symbols

/-!
# `Evaluation/Footing` — which calls lack the points that they go on from

A line goes on from one point and a curve from two. What is asked for is history: whether enough
points have been visited since everything was last forgotten. A traverse holds no history but two
positions, and they answer all the same, because no kind of call goes on from more than two points
and nothing but a reset takes a position away. `Traverse.remembered` counts the positions;
`Evaluator.Remembering` says that the count is right up to two, and it is, wherever an evaluation
gets to.

Main statement: `Evaluator.lacksPoints_iff_located_lt`.
-/

set_option autoImplicit false

namespace MetesBounds

/-- How many earlier points a kind of call goes on from. -/
def Kind.footing : Kind → Nat
  | .point | .procedure | .binding => 0
  | .line => 1
  | .curve => 2

theorem Kind.footing_le_two (k : Kind) : k.footing ≤ 2 := by
  cases k <;> decide

/-- A result that fails for want of earlier points. -/
def LacksPoints {α : Type} (x : Except Error α) : Prop :=
  ∃ err, x = .error err ∧ err.family = .missingContext

section

variable {α β : Type}

theorem not_lacksPoints_ok (a : α) : ¬LacksPoints (.ok a) := by
  rintro ⟨_, h, -⟩
  cases h

theorem lacksPoints_error {err : Error} :
    LacksPoints (.error err : Except Error α) ↔ err.family = .missingContext := by
  constructor
  · rintro ⟨_, h, hf⟩
    cases h
    exact hf
  · intro hf
    exact ⟨err, rfl, hf⟩

theorem lacksPoints_map {f : α → β} {x : Except Error α} :
    LacksPoints (f <$> x) ↔ LacksPoints x := by
  cases x with
  | ok a => exact iff_of_false (not_lacksPoints_ok _) (not_lacksPoints_ok _)
  | error err => exact lacksPoints_error.trans lacksPoints_error.symm

/-- A calculation is given its points. -/
theorem Calculates.not_lacksPoints {x : Except Error α} (h : Calculates x) : ¬LacksPoints x := by
  rintro ⟨err, hx, hf⟩
  have hc := h err hx
  rw [hf] at hc
  cases hc

end

/-- How many positions a traverse remembers. -/
def Traverse.remembered (t : Traverse) : Nat :=
  t.current.toList.length + t.previous.toList.length

/-- A further position is remembered beside the one before it. -/
theorem Traverse.remembered_advance {t : Traverse} (ht : t.Coherent) (p : Point) (label : String)
    (index : Int) : (t.advance p label index).remembered = min 2 (t.remembered + 1) := by
  have placed := ht.placed
  rw [remembered, remembered, current_advance, previous_advance]
  cases hc : t.current with
  | some q => cases t.previous <;> rfl
  | none =>
    rw [hc] at placed
    cases hp : t.previous with
    | none => rfl
    | some q => rw [hp] at placed; cases placed rfl

namespace Evaluator

variable {e : Evaluator} {t : Traverse}

/-! ## What acts on too few points -/

section Acting

variable (hi : e.toInstruments.Foreign)

include hi

theorem lacksPoints_lineEnd {c : LineCall} {memo : String} (hm : c.memo = .text memo) :
    LacksPoints (e.lineEnd t c) ↔ t.current = none := by
  cases hc : t.current with
  | none =>
    rw [lineEnd, hc, hm]
    exact iff_of_true ⟨_, rfl, rfl⟩ rfl
  | some origin =>
    exact iff_of_false ((arises_lineEnd hc c).calculates_of_arises hi).not_lacksPoints
      (Option.some_ne_none origin)

theorem lacksPoints_curveEnd {c : CurveCall} {memo : String} (hm : c.memo = .text memo) :
    LacksPoints (e.curveEnd t c) ↔ t.previous = none ∨ t.current = none := by
  unfold curveEnd
  by_cases hp : t.previous = none ∨ t.current = none
  · rw [Curve.endOnSphere_of_missing hp, hm]
    exact iff_of_true ⟨_, rfl, rfl⟩ hp
  · obtain ⟨hprevious, hcurrent⟩ := not_or.mp hp
    obtain ⟨p, hp'⟩ := Option.ne_none_iff_exists'.mp hprevious
    obtain ⟨q, hq'⟩ := Option.ne_none_iff_exists'.mp hcurrent
    rw [hp', hq']
    refine iff_of_false ?_ (by simp)
    exact (Curve.calculates_endOnSphere hi _ _ _ p q c).not_lacksPoints

omit hi in
theorem not_lacksPoints_bindLast (c : BindingCall) : ¬LacksPoints (bindLast t c).result := by
  unfold bindLast
  cases hs : Symbol.ofValue c.name with
  | ok s => exact not_lacksPoints_ok _
  | error err =>
    unfold Symbol.ofValue at hs
    split at hs
    · cases hs
    · split at hs <;> cases hs
      exact fun h => by cases lacksPoints_error.mp h

theorem not_lacksPoints_call (name args : Value) :
    ¬LacksPoints ((Registry.standard e.units).call name args t).1 := by
  rintro ⟨err, herr, hfamily⟩
  have hcalling := Registry.standard_call_eq_error hi.units herr
  rw [hfamily] at hcalling
  cases hcalling

/-- **A call lacks points where the traverse remembers fewer than it goes on from.** -/
theorem lacksPoints_act (hr : e.procedures = .standard e.units) (ht : t.Coherent) {c : Call}
    {memo : String} (hm : c.memo = .text memo) :
    LacksPoints (e.act t c).result ↔ t.remembered < c.kind.footing := by
  have placed := ht.placed
  unfold Traverse.remembered
  cases c with
  | point c =>
    refine iff_of_false ?_ (Nat.not_lt_zero _)
    exact fun h => (reckons_pointOf c).calculates.not_lacksPoints (lacksPoints_map.mp h)
  | line c =>
    refine lacksPoints_map.trans ((lacksPoints_lineEnd hi hm).trans ?_)
    cases hc : t.current with
    | none =>
      rw [hc] at placed
      cases hp : t.previous with
      | none => simp [Call.kind, Kind.footing]
      | some p => rw [hp] at placed; cases placed rfl
    | some p => simp [Call.kind, Kind.footing]
  | curve c =>
    have hact : LacksPoints (e.act t (.curve c)).result ↔ LacksPoints (e.curveEnd t c) := by
      simp only [act]
      cases e.curveEnd t c with
      | ok found => exact iff_of_false (not_lacksPoints_ok _) (not_lacksPoints_ok _)
      | error err => exact lacksPoints_error.trans lacksPoints_error.symm
    rw [hact, lacksPoints_curveEnd hi hm]
    cases t.previous <;> cases t.current <;> simp [Call.kind, Kind.footing]
  | procedure c =>
    refine iff_of_false ?_ (Nat.not_lt_zero _)
    rw [act, hr]
    exact not_lacksPoints_call hi c.name c.args
  | binding c => exact iff_of_false (not_lacksPoints_bindLast c) (Nat.not_lt_zero _)

omit hi in
/-- A call with a label that can be reported fails just where performing it does. -/
theorem step_eq_error {c : Call} (hl : e.Announces c) {memo : String} (hm : c.memo = .text memo)
    (index : Int) (err : Error) : (e.step t (.call c) index).result = .error err ↔
      (e.perform t c).result = .error err := by
  rw [(step_of_announces hl t index).1]
  cases hp : (e.perform t c).result with
  | error err' =>
    simp only [complete, hp]
    constructor <;> rintro ⟨⟩ <;> rfl
  | ok v =>
    simp only [complete, hp, reduceCtorEq, iff_false]
    have hs := settled (e.perform t c).traverse c index v
    generalize settle (e.perform t c).traverse c index v = r at hs
    cases hs with
    | unlabelled _ _ _ _ err' hlabel =>
      rw [Call.label, hm] at hlabel
      cases hlabel
    | _ => exact fun h => by cases h

/-- A call that can be reported and whose references are all replaced lacks points where the traverse
remembers fewer than it goes on from, whatever else is wrong with it. -/
theorem lacksPoints_step (hr : e.procedures = .standard e.units) (ht : t.Coherent) {c c' : Call}
    (hl : e.Announces c) {memo : String} (hm : c.memo = .text memo) (hs : t.substitute c = .ok c')
    (index : Int) :
    LacksPoints (e.step t (.call c) index).result ↔ t.remembered < c.kind.footing := by
  have hstep : LacksPoints (e.step t (.call c) index).result ↔ LacksPoints (e.perform t c).result :=
    exists_congr fun err => and_congr (step_eq_error hl hm index err) Iff.rfl
  rw [hstep]
  by_cases hc : c.kind = .binding
  · cases c with
    | binding b => exact lacksPoints_act hi hr ht hm
    | _ => cases hc
  · have hk : c'.kind = c.kind := Call.mapFields_kind hs
    rw [perform_of_ne_binding hc, hs, ← hk]
    exact lacksPoints_act hi hr ht (Traverse.substitute_memo hs hm)

end Acting

/-! ## Counting the points visited -/

variable {items : List Item}

/-- A state remembers as many positions as calls have led to a point since the last reset, up to
two. -/
def Remembering (e : Evaluator) (t : Traverse) (items : List Item) (k : Nat) (u : Traverse) :
    Prop :=
  u.Coherent ∧ ∃ s, SinceLast (e.ResetsAt t items) k s ∧
    u.remembered = min 2 (located items s k).length

/-- A step that resets nothing and leads to no point keeps what is remembered. -/
theorem Remembering.kept {k : Nat} {u w : Traverse} (h : e.Remembering t items k u)
    (hw : w.Coherent) (hreset : ¬e.ResetsAt t items k) (hk : locatesAt items k = false)
    (hu : w.remembered = u.remembered) : e.Remembering t items (k + 1) w := by
  obtain ⟨-, s, hs, hcount⟩ := h
  refine ⟨hw, s, hs.succ hreset, ?_⟩
  rw [hu, hcount, located_succ hs.1, hk, if_neg Bool.false_ne_true, List.append_nil]

/-- **What one step does to the positions remembered** is what the reading of the items says of its
position. -/
theorem remembering_succ {k : Nat} {item : Item} {v : Value} {u : Traverse}
    (hk : items[k]? = some item) (ht : e.Remembering t items k (e.before t items k))
    (hs : Stepped (e.before t items k) k item v u) : e.Remembering t items (k + 1) u := by
  have hco := ht.1
  cases hs with
  | bound c sym hsym =>
    have hreset : ¬e.ResetsAt t items k := not_resetsAt hk fun a ha => by
      cases Traverse.kind_of_asked? ha
    exact ht.kept (hco.bind sym _) hreset (locatesAt_call hk) rfl
  | found c hc label hl p =>
    have hreset : ¬e.ResetsAt t items k := not_resetsAt hk fun a ha => by
      rw [Traverse.locates_of_asked? ha] at hc
      cases hc
    obtain ⟨-, s, hs, hcount⟩ := ht
    refine ⟨(hco.lastResult _).advance p label k, s, hs.succ hreset, ?_⟩
    rw [Traverse.remembered_advance (hco.lastResult _), located_succ hs.1, locatesAt_call hk,
      if_pos hc, List.length_append, List.length_singleton]
    change min 2 ((e.before t items k).remembered + 1) = _
    omega
  | reckoned c a ha hc hr x =>
    have hreset : ¬e.ResetsAt t items k := not_resetsAt hk fun a' ha' => by
      rw [ha] at ha'
      cases ha'
      exact hr
    exact ht.kept (hco.lastResult _) hreset
      ((locatesAt_call hk).trans (Traverse.locates_of_asked? ha)) rfl
  | cleared c a ha hn =>
    -- clearing goes by another name than resetting
    have hreset : ¬e.ResetsAt t items k := not_resetsAt hk fun a' ha' => by
      rw [ha] at ha'
      cases ha'
      rw [hn]
      exact fun h => absurd (Value.text.inj h) (by decide)
    exact ht.kept (hco.clearPoints.lastResult _) hreset
      ((locatesAt_call hk).trans (Traverse.locates_of_asked? ha)) rfl
  | reset c a ha hn =>
    refine ⟨.reset, k + 1, .of_holds ⟨_, a, hk, ha, hn⟩, ?_⟩
    rw [located_self]
    rfl

theorem remembering (hr : e.procedures = .standard e.units) {k : Nat} (hk : k ≤ items.length)
    (ha : e.Accepts e.start (items.take k)) :
    e.Remembering e.start items k (e.before e.start items k) :=
  before_induction hr ⟨.start _, 0, sinceLast_zero _, rfl⟩
    (fun _ _ _ _ hk _ ht hs => remembering_succ hk ht hs) hk ha

/-- What empties the result without forgetting everything keeps both positions. -/
theorem Stepped.position_of_clear {index : Int} {item : Item} {v : Value} {u : Traverse}
    {a : ProcedureCall} (hs : Stepped t index item v u) (ha : t.asked? item = some a)
    (hn : a.name = .text Registry.clearName) : u.previous = t.previous ∧ u.current = t.current := by
  cases hs with
  | bound c s hs => cases Traverse.kind_of_asked? ha
  | found c hc label hl p =>
    rw [Traverse.locates_of_asked? ha] at hc
    cases hc
  | reckoned => exact ⟨rfl, rfl⟩
  | cleared => exact ⟨rfl, rfl⟩
  | reset c a' ha' hn' =>
    rw [ha'] at ha
    cases ha
    rw [hn] at hn'
    exact absurd (Value.text.inj hn') (by decide)

/-- **When a call lacks the points that it goes on from.** Wherever an evaluation with the standard
procedures gets to, a call that can be written and whose references all stand for something lacks
points just where fewer calls than it needs have led to a point since the last reset: one for a
line, two for a curve, none for the others. Whatever else is wrong with the call comes after that;
but one that cannot be written fails over this first. Procedures that only empty the result do not
count: each of them keeps both positions. -/
theorem lacksPoints_iff_located_lt (hi : e.toInstruments.Foreign)
    (hr : e.procedures = .standard e.units) (items : List Item) (k : Nat) (hk : k ≤ items.length)
    (ha : e.Accepts e.start (items.take k)) :
    ∃ s, SinceLast (e.ResetsAt e.start items) k s ∧
      (∀ c c' memo, c.memo = .text memo → (e.before e.start items k).substitute c = .ok c' →
        (c.isOverlong = false →
          (LacksPoints (e.step (e.before e.start items k) (.call c) k).result ↔
            (located items s k).length < c.kind.footing)) ∧
        (c.isOverlong = true →
          (e.step (e.before e.start items k) (.call c) k).result = .error .overlong)) ∧
      ∀ j < k, e.EmptiesAt e.start items j → ¬e.ResetsAt e.start items j →
        (e.before e.start items (j + 1)).previous = (e.before e.start items j).previous ∧
        (e.before e.start items (j + 1)).current = (e.before e.start items j).current := by
  obtain ⟨hco, s, hs, hcount⟩ := remembering hr hk ha
  refine ⟨s, hs, fun c c' memo hm hsub => ⟨fun hlong => ?_, fun hlong => ?_⟩,
    fun j hj hempties hreset => ?_⟩
  · rw [lacksPoints_step hi hr hco ⟨hlong, (accepts_iff.mp ha).2⟩ hm hsub, hcount]
    -- no call goes on from more points than are remembered
    have hfooting := c.kind.footing_le_two
    omega
  · rw [step_of_overlong hlong]
    rfl
  · obtain ⟨item, v, hitem, -, hstep⟩ :=
      stepped_at hr (Nat.lt_of_lt_of_le hj hk) (accepts_take_of_le hj ha)
    obtain ⟨item', a, hitem', hasked, hname⟩ := hempties
    rw [hitem] at hitem'
    cases hitem'
    rcases hname with hclear | hresets
    · exact hstep.position_of_clear hasked hclear
    · exact absurd ⟨item, a, hitem, hasked, hresets⟩ hreset

/-- A curve right after the first point and a clearing, with nothing right about the curve. -/
theorem lacksPoints_iff_located_lt_cleared :
    let e : Evaluator := .standard .known .usual
    let curve : Call := .curve ⟨.nothing, .text "up", .nothing, .nothing, .nothing, .text ""⟩
    let items : List Item := [.call (.point ⟨.ofInt 1, .ofInt 2, .text "1"⟩),
      .call (.procedure ⟨.text "clearDestinationPoints", .row [], .text ""⟩), .call curve]
    e.Accepts e.start (items.take 2) ∧
      LacksPoints (e.step (e.before e.start items 2) (.call curve) 2).result := by
  intro e curve items
  have ha : e.Accepts e.start (items.take 2) := ⟨_, rfl⟩
  obtain ⟨s, hs, hlacks, -⟩ :=
    lacksPoints_iff_located_lt (e := e) Instruments.foreign_known rfl items 2 (by decide) ha
  refine ⟨ha, ((hlacks curve _ "" rfl rfl).1 rfl).mpr ?_⟩
  -- wherever the last reset was, one call has led to a point at most
  obtain rfl | rfl | rfl : s = 0 ∨ s = 1 ∨ s = 2 := by
    have := hs.1
    omega
  all_goals decide

/-- A line of more digits than can be written, without a point to start from. It is the digits that
it fails over. -/
theorem overlong_before_footing :
    let e : Evaluator := .standard .known .usual
    let c : Call := .line ⟨.ofInt 0, .ofInt (10 ^ 4300), .text "TRUE", .text ""⟩
    e.start.substitute c = .ok c ∧ located [.call c] 0 0 = [] ∧
      (e.step e.start (.call c) 0).result = .error .overlong ∧
      ¬LacksPoints (e.step e.start (.call c) 0).result := by
  intro e c
  have hlong : c.isOverlong = true := by
    simp only [c, Call.isOverlong, Call.entries, List.any_cons, Value.isOverlong,
      Number.isOverlong_ten_pow, Bool.true_or, Bool.or_true]
  have hresult : (e.step e.start (.call c) 0).result = .error .overlong := by
    rw [step_of_overlong hlong]
    rfl
  refine ⟨rfl, rfl, hresult, ?_⟩
  rw [hresult, lacksPoints_error]
  rintro ⟨⟩

end Evaluator

end MetesBounds
