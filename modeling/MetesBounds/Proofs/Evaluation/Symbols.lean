import MetesBounds.Proofs.Calculation.Measures
import MetesBounds.Proofs.Calculation.Overlong
import MetesBounds.Proofs.Evaluation.Acting
import MetesBounds.Proofs.Evaluation.Run
import MetesBounds.Proofs.Traverse.Update

/-!
# `Evaluation/Symbols` — what names mean in the course of an evaluation

The table of symbols changes as an evaluation goes on; what stands in it can all the same be read
off the items. A name is bound by the latest binding call for it that no reset has come after, and
to what the last call before that binding has given. `Evaluator.BoundBy` and `Evaluator.lastGiven`
are that reading.

References are looked up before anything else is done with a call that can be written down; so an
unbound one is what such a call fails over, and the first of several is the one that is named.

Main statement: `Evaluator.meaning_of_symbols`.
-/

set_option autoImplicit false

namespace MetesBounds

/-! ## Reading the items -/

/-- Whether the item at a position is a binding call. -/
def bindingAt (items : List Item) (k : Nat) : Bool :=
  match items[k]? with
  | some (.call (.binding _)) => true
  | _ => false

/-- The item at a position is a binding call for a name. -/
def BindsAt (items : List Item) (k : Nat) (n : String) : Prop :=
  ∃ c : BindingCall, items[k]? = some (.call (.binding c)) ∧ c.name = .text n

/-- Only a text is bound as a name. -/
theorem Symbol.ofValue_eq_named {v : Value} {s : Symbol} (h : ofValue v = .ok s) (n : String) :
    s = .named n ↔ v = .text n := by
  unfold ofValue at h
  split at h
  · cases h
    constructor
    · rintro ⟨⟩; rfl
    · rintro ⟨⟩; rfl
  · next v hv =>
    split at h <;> cases h
    constructor
    · rintro ⟨⟩
    · rintro rfl; exact absurd rfl (hv n)

namespace Evaluator

variable {e : Evaluator} {t : Traverse} {items : List Item}

/-- The item at a position comes to a call of the procedure that forgets everything. -/
def ResetsAt (e : Evaluator) (t : Traverse) (items : List Item) (k : Nat) : Prop :=
  ∃ item a, items[k]? = some item ∧ (e.before t items k).asked? item = some a ∧
    a.name = .text Registry.resetName

/-- What the last call before a position has given that is not a binding call, and nothing where
there is none. -/
def lastGiven (e : Evaluator) (t : Traverse) (items : List Item) : Nat → Value
  | 0 => .nothing
  | k + 1 =>
    if bindingAt items k then lastGiven e t items k else (e.valueAt t items k).getD .nothing

/-- The binding call at `j` is the latest for a name before `k`, and no reset has come after it. -/
structure BoundBy (e : Evaluator) (t : Traverse) (items : List Item) (k : Nat) (n : String)
    (j : Nat) : Prop where
  lt : j < k
  binds : BindsAt items j n
  latest : ∀ i, j < i → i < k → ¬BindsAt items i n
  kept : ∀ i, j < i → i < k → ¬e.ResetsAt t items i

theorem not_boundBy_zero {n : String} {j : Nat} : ¬e.BoundBy t items 0 n j :=
  fun h => absurd h.lt (Nat.not_lt_zero j)

/-- **Which binding call holds past a position**: the one there, if it binds the name, and else the
one before it, unless everything is forgotten there. -/
theorem boundBy_succ {k : Nat} {n : String} {j : Nat} : e.BoundBy t items (k + 1) n j ↔
    (j = k ∧ BindsAt items k n) ∨
      (¬BindsAt items k n ∧ ¬e.ResetsAt t items k ∧ e.BoundBy t items k n j) := by
  constructor
  · rintro ⟨hlt, hbinds, hlatest, hkept⟩
    rcases Nat.lt_succ_iff_lt_or_eq.mp hlt with hjk | rfl
    · exact .inr ⟨hlatest k hjk (Nat.lt_succ_self k), hkept k hjk (Nat.lt_succ_self k), hjk, hbinds,
        fun i hi hik => hlatest i hi (Nat.lt_succ_of_lt hik),
        fun i hi hik => hkept i hi (Nat.lt_succ_of_lt hik)⟩
    · exact .inl ⟨rfl, hbinds⟩
  · rintro (⟨rfl, hbinds⟩ | ⟨hk, hreset, h⟩)
    · exact ⟨Nat.lt_succ_self j, hbinds, fun i hi hik => absurd hi (by omega),
        fun i hi hik => absurd hi (by omega)⟩
    · refine ⟨Nat.lt_succ_of_lt h.lt, h.binds, fun i hi hik => ?_, fun i hi hik => ?_⟩
      · rcases Nat.lt_succ_iff_lt_or_eq.mp hik with hik | rfl
        · exact h.latest i hi hik
        · exact hk
      · rcases Nat.lt_succ_iff_lt_or_eq.mp hik with hik | rfl
        · exact h.kept i hi hik
        · exact hreset

/-- Of the binding calls for a name that no reset has come after, one is the latest. -/
theorem exists_boundBy {k : Nat} {n : String} (h : ∃ j < k, BindsAt items j n ∧
    ∀ i, j < i → i < k → ¬e.ResetsAt t items i) : ∃ j, e.BoundBy t items k n j := by
  induction k with
  | zero =>
    obtain ⟨j, hj, -⟩ := h
    exact absurd hj (Nat.not_lt_zero j)
  | succ k ih =>
    by_cases hk : BindsAt items k n
    · exact ⟨k, boundBy_succ.mpr (.inl ⟨rfl, hk⟩)⟩
    · obtain ⟨j, hjk, hbinds, hkept⟩ := h
      have hlt : j < k := by
        rcases Nat.lt_succ_iff_lt_or_eq.mp hjk with hjk | rfl
        · exact hjk
        · exact absurd hbinds hk
      obtain ⟨i, hi⟩ := ih ⟨j, hlt, hbinds, fun i hi hik => hkept i hi (Nat.lt_succ_of_lt hik)⟩
      exact ⟨i, boundBy_succ.mpr (.inr ⟨hk, hkept k hlt (Nat.lt_succ_self k), hi⟩)⟩

/-! ## The table and its reading -/

/-- What a state keeps is what the items before a position say. -/
structure Meant (e : Evaluator) (t : Traverse) (items : List Item) (k : Nat) (u : Traverse) :
    Prop where
  marker : u.marker = t.marker
  lastResult : u.lastResult = e.lastGiven t items k
  symbols : ∀ n v, u.symbols.get? (.named n) = some v ↔
    ∃ j, e.BoundBy t items k n j ∧ e.lastGiven t items j = v
  /-- No traverse stands in what has been given, so showing it later shows the same. -/
  settled : ∀ j ≤ k, ∀ f, (e.lastGiven t items j).mapRunning f = e.lastGiven t items j

theorem bindingAt_call {c : Call} {k : Nat} (hk : items[k]? = some (.call c))
    (hc : c.kind ≠ .binding) : bindingAt items k = false := by
  rw [bindingAt, hk]
  cases c with
  | binding b => exact absurd rfl hc
  | _ => rfl

theorem not_bindsAt {k : Nat} (hk : bindingAt items k = false) (n : String) :
    ¬BindsAt items k n := by
  rintro ⟨c, hc, -⟩
  rw [bindingAt, hc] at hk
  cases hk

/-- Past a call that is not a binding call the last result is what it has given. -/
theorem lastGiven_succ {k : Nat} {v : Value} (hk : bindingAt items k = false)
    (hv : e.valueAt t items k = some v) : e.lastGiven t items (k + 1) = v := by
  rw [lastGiven, hk, hv]
  rfl

/-- A binding call is passed over when the last result is asked for. -/
theorem lastGiven_of_binding {c : BindingCall} {k : Nat}
    (hk : items[k]? = some (.call (.binding c))) :
    e.lastGiven t items (k + 1) = e.lastGiven t items k := by
  have hb : bindingAt items k = true := by rw [bindingAt, hk]
  rw [lastGiven, if_pos hb]

theorem bindsAt_iff {c : BindingCall} {s : Symbol} {k : Nat}
    (hk : items[k]? = some (.call (.binding c))) (hs : Symbol.ofValue c.name = .ok s) (n : String) :
    BindsAt items k n ↔ s = .named n := by
  rw [Symbol.ofValue_eq_named hs]
  constructor
  · rintro ⟨c', hc', hn⟩
    rw [hk] at hc'
    cases hc'
    exact hn
  · intro hn
    exact ⟨c, hk, hn⟩

/-- What no call with a reset for its name comes to is no reset. -/
theorem not_resetsAt {item : Item} {k : Nat} (hk : items[k]? = some item)
    (h : ∀ a, (e.before t items k).asked? item = some a → a.name ≠ .text Registry.resetName) :
    ¬e.ResetsAt t items k := not_asked_at hk h

namespace Meant

variable {k : Nat} {u : Traverse}

theorem settled_succ (h : e.Meant t items k u)
    (hlast : ∀ f, (e.lastGiven t items (k + 1)).mapRunning f = e.lastGiven t items (k + 1)) :
    ∀ j ≤ k + 1, ∀ f, (e.lastGiven t items j).mapRunning f = e.lastGiven t items j := by
  intro j hj
  rcases Nat.lt_succ_iff_lt_or_eq.mp (Nat.lt_succ_of_le hj) with hj | rfl
  · exact h.settled j (Nat.le_of_lt_succ hj)
  · exact hlast

/-- A binding call names what was given last. -/
theorem bound (h : e.Meant t items k u) {c : BindingCall} {s : Symbol}
    (hk : items[k]? = some (.call (.binding c))) (hs : Symbol.ofValue c.name = .ok s) :
    e.Meant t items (k + 1) (u.bind s u.lastResult) where
  marker := h.marker
  lastResult := by rw [Traverse.lastResult_bind, h.lastResult, lastGiven_of_binding hk]
  symbols n v := by
    have hbinds : BindsAt items k n ↔ s = .named n := bindsAt_iff hk hs n
    have hreset : ¬e.ResetsAt t items k := not_resetsAt hk fun a ha => by
      cases Traverse.kind_of_asked? ha
    rw [Traverse.symbols_bind]
    by_cases hn : s = .named n
    · rw [if_pos hn, h.lastResult]
      simp [boundBy_succ, hbinds, hn]
    · rw [if_neg hn, h.symbols]
      simp [boundBy_succ, hbinds, hn, hreset]
  settled := h.settled_succ fun f => by
    rw [lastGiven_of_binding hk, h.settled k (Nat.le_refl k)]

/-- A call that neither binds nor forgets changes the last result only. -/
theorem given {w : Traverse} {v : Value} (h : e.Meant t items k u)
    (hk : bindingAt items k = false) (hv : e.valueAt t items k = some v)
    (hf : ∀ f, v.mapRunning f = v) (hreset : ¬e.ResetsAt t items k) (hm : w.marker = u.marker)
    (hs : w.symbols = u.symbols) (hl : w.lastResult = v) : e.Meant t items (k + 1) w where
  marker := hm.trans h.marker
  lastResult := by rw [hl, lastGiven_succ hk hv]
  symbols n v' := by
    rw [hs, h.symbols]
    simp only [boundBy_succ, not_bindsAt hk, and_false, false_or, hreset, not_false_eq_true,
      true_and]
  settled := h.settled_succ fun f => by rw [lastGiven_succ hk hv, hf]

/-- No binding holds past a reset, and the table is empty. -/
theorem forgotten (h : e.Meant t items k u) (hk : bindingAt items k = false)
    (hv : e.valueAt t items k = some .nothing) (hreset : e.ResetsAt t items k) :
    e.Meant t items (k + 1) u.reset where
  marker := h.marker
  lastResult := (lastGiven_succ hk hv).symm
  symbols n v := by
    rw [Traverse.symbols_reset, Table.get?_empty]
    simp [boundBy_succ, not_bindsAt hk, hreset]
  settled := h.settled_succ fun f => by
    rw [lastGiven_succ hk hv]
    rfl

end Meant

/-- **What one step does to the table** is what the reading of the items says of its position. -/
theorem meant_succ {k : Nat} {item : Item} {v : Value} {u : Traverse}
    (hk : items[k]? = some item) (hv : e.valueAt t items k = some v)
    (ht : e.Meant t items k (e.before t items k))
    (hs : Stepped (e.before t items k) k item v u) : e.Meant t items (k + 1) u := by
  cases hs with
  | bound c s hs => exact ht.bound hk hs
  | found c hc label hl p =>
    have hb : bindingAt items k = false := bindingAt_call hk (Call.ne_binding_of_locates hc)
    have hreset : ¬e.ResetsAt t items k := not_resetsAt hk fun a ha => by
      rw [Traverse.locates_of_asked? ha] at hc
      cases hc
    exact ht.given hb hv (fun _ => rfl) hreset rfl rfl rfl
  | reckoned c a ha hc hr x =>
    have hb : bindingAt items k = false := bindingAt_call hk (Traverse.ne_binding_of_asked? ha)
    have hreset : ¬e.ResetsAt t items k := not_resetsAt hk fun a' ha' => by
      rw [ha] at ha'
      cases ha'
      exact hr
    exact ht.given hb hv (fun _ => rfl) hreset rfl rfl rfl
  | cleared c a ha hn =>
    have hb : bindingAt items k = false := bindingAt_call hk (Traverse.ne_binding_of_asked? ha)
    -- clearing goes by another name than resetting
    have hreset : ¬e.ResetsAt t items k := not_resetsAt hk fun a' ha' => by
      rw [ha] at ha'
      cases ha'
      rw [hn]
      exact fun h => absurd (Value.text.inj h) (by decide)
    exact ht.given hb hv (fun _ => rfl) hreset rfl rfl rfl
  | reset c a ha hn =>
    have hb : bindingAt items k = false := bindingAt_call hk (Traverse.ne_binding_of_asked? ha)
    exact ht.forgotten hb hv ⟨_, a, hk, ha, hn⟩

/-- A reset gives nothing. -/
theorem value_of_reset {index : Int} {item : Item} {v : Value} {u : Traverse} {a : ProcedureCall}
    (hs : Stepped t index item v u) (ha : t.asked? item = some a)
    (hn : a.name = .text Registry.resetName) : v = .nothing := by
  cases hs with
  | bound c s hs => cases Traverse.kind_of_asked? ha
  | found c hc label hl p =>
    rw [Traverse.locates_of_asked? ha] at hc
    cases hc
  | reckoned c a' ha' hc hr x =>
    rw [ha'] at ha
    cases ha
    exact absurd hn hr
  | cleared => rfl
  | reset => rfl

theorem meant {items : List Item} (hr : e.procedures = .standard e.units) {k : Nat}
    (hk : k ≤ items.length) (ha : e.Accepts e.start (items.take k)) :
    e.Meant e.start items k (e.before e.start items k) := by
  refine before_induction hr ?_ (fun _ _ _ _ hk hv ht hs => meant_succ hk hv ht hs) hk ha
  refine ⟨rfl, rfl, fun n v => ?_, fun j hj f => ?_⟩
  · constructor
    · intro h
      cases h
    · rintro ⟨j, hj, -⟩
      exact absurd hj not_boundBy_zero
  · rw [Nat.le_zero.mp hj]
    rfl

/-- A name is bound to what the last call before its binding has given. -/
theorem Meant.lookup_eq_ok {k : Nat} {u : Traverse} (h : e.Meant t items k u) (n : String)
    (v : Value) :
    u.lookup n = .ok v ↔ ∃ j, e.BoundBy t items k n j ∧ e.lastGiven t items j = v := by
  rw [← h.symbols, Traverse.lookup]
  cases hs : u.symbols.get? (.named n) with
  | none => simp
  | some v' =>
    obtain ⟨j, hj, hv⟩ := (h.symbols n v').mp hs
    have hshown : u.refresh v' = v' := by
      rw [Traverse.refresh, ← hv, h.settled j (Nat.le_of_lt hj.lt)]
    simp [hshown]

/-! ## Unbound references -/

/-- Completing a call leaves a name unresolved only where performing it does. -/
theorem complete_eq_unresolved {c : Call} {index : Int} {n : String} :
    (e.complete t c index).result = .error (.unresolved n) ↔
      (e.perform t c).result = .error (.unresolved n) := by
  cases hp : (e.perform t c).result with
  | error err => simp only [complete, hp]; simp
  | ok v =>
    simp only [complete, hp, reduceCtorEq, iff_false]
    have hs := settled (e.perform t c).traverse c index v
    generalize settle (e.perform t c).traverse c index v = r at hs
    cases hs with
    | unlabelled _ _ _ _ err hl =>
      intro h
      cases h
      exact absurd (Call.calculates_labelWith _ _ _ hl) Bool.false_ne_true
    | _ =>
      intro h
      cases h

/-- **An unbound reference is what a call fails over** that can be reported, before anything else, and
the first in the order of fields is named. -/
theorem step_eq_unresolved (hi : e.toInstruments.Foreign) (hr : e.procedures = .standard e.units)
    (hm : t.marker.Marks) {c : Call} (hl : e.Announces c) (hc : c.kind ≠ .binding) (index : Int)
    (n : String) :
    (e.step t (.call c) index).result = .error (.unresolved n) ↔ t.firstUnbound? c = some n := by
  rw [(step_of_announces hl t index).1, complete_eq_unresolved, perform_of_ne_binding hc]
  cases hs : t.substitute c with
  | error err =>
    obtain ⟨n', hn', rfl⟩ := (Traverse.substitute_eq_error hm).mp hs
    simp [Outcome.failed, hn']
  | ok c' =>
    -- no reference is unbound, and acting leaves none unresolved
    have hnone : t.firstUnbound? c ≠ some n := by
      intro hn
      rw [(Traverse.substitute_eq_error hm).mpr ⟨n, hn, rfl⟩] at hs
      cases hs
    refine iff_of_false (fun h => ?_) hnone
    exact ne_unresolved_of_ofActing (act_eq_error hi hr h) n rfl

theorem unbound?_isSome {v : Value} : (∃ n, t.unbound? v = some n) ↔
    ∃ n, t.referent? v = some n ∧ ∀ w, t.lookup n ≠ .ok w := by
  refine exists_congr fun n => ?_
  rw [Traverse.unbound?_eq_some, Traverse.lookup]
  cases t.symbols.get? (.named n) with
  | none => simp
  | some w => simp

/-- Some reference of a call is unbound just where the first one is. -/
theorem firstUnbound?_isSome {c : Call} : (∃ n, t.firstUnbound? c = some n) ↔
    ∃ entry ∈ c.entries, ∃ v ∈ Traverse.places entry.1 entry.2, ∃ n, t.referent? v = some n ∧
      ∀ w, t.lookup n ≠ .ok w := by
  simp only [← unbound?_isSome, ← Option.isSome_iff_exists, Traverse.firstUnbound?,
    List.findSome?_isSome_iff]

/-- **What names mean in the course of an evaluation.** Wherever an evaluation with the standard
procedures gets to: a name is bound just where a binding call for it stands before that no reset
has come after; it is bound to what the last call before the latest such binding has given, and a
reset gives nothing. A call there that is not a binding call and can be written leaves a name
unresolved just where a reference to an unbound name stands in one of its fields, whatever else is
wrong with it, and names the first in the order of fields; one that cannot be written fails over
that. -/
theorem meaning_of_symbols (hi : e.toInstruments.Foreign) (hr : e.procedures = .standard e.units)
    (hm : e.settings.marker.Marks) (items : List Item) (k : Nat) (hk : k ≤ items.length)
    (ha : e.Accepts e.start (items.take k)) :
    (∀ n, (∃ v, (e.before e.start items k).lookup n = .ok v) ↔
      ∃ j < k, BindsAt items j n ∧ ∀ i, j < i → i < k → ¬e.ResetsAt e.start items i) ∧
    (∀ n j, e.BoundBy e.start items k n j →
      (e.before e.start items k).lookup n = .ok (e.lastGiven e.start items j)) ∧
    (∀ i < k, e.ResetsAt e.start items i → e.valueAt e.start items i = some .nothing) ∧
    ∀ c, items[k]? = some (.call c) → c.kind ≠ .binding →
      (c.isOverlong = false →
        ((∃ n, (e.step (e.before e.start items k) (.call c) k).result = .error (.unresolved n)) ↔
          ∃ entry ∈ c.entries, ∃ v ∈ Traverse.places entry.1 entry.2, ∃ n,
            (e.before e.start items k).referent? v = some n ∧
              ∀ w, (e.before e.start items k).lookup n ≠ .ok w) ∧
        ∀ n, (e.before e.start items k).firstUnbound? c = some n →
          (e.step (e.before e.start items k) (.call c) k).result = .error (.unresolved n)) ∧
      (c.isOverlong = true →
        (e.step (e.before e.start items k) (.call c) k).result = .error .overlong) := by
  have hmeant := meant hr hk ha
  have hmarks : (e.before e.start items k).marker.Marks := by rw [hmeant.marker]; exact hm
  refine ⟨fun n => ?_, fun n j hj => ?_, fun i hi hreset => ?_,
    fun c _ hc => ⟨fun hlong => ⟨?_, fun n hn => ?_⟩, fun hlong => ?_⟩⟩
  · constructor
    · rintro ⟨v, hv⟩
      obtain ⟨j, hj, -⟩ := (hmeant.lookup_eq_ok n v).mp hv
      exact ⟨j, hj.lt, hj.binds, hj.kept⟩
    · intro h
      obtain ⟨j, hj⟩ := exists_boundBy h
      exact ⟨_, (hmeant.lookup_eq_ok n _).mpr ⟨j, hj, rfl⟩⟩
  · exact (hmeant.lookup_eq_ok n _).mpr ⟨j, hj, rfl⟩
  · obtain ⟨item, v, hitem, hv, hs⟩ :=
      stepped_at hr (Nat.lt_of_lt_of_le hi hk) (accepts_take_of_le hi ha)
    obtain ⟨item', a, hitem', hasked, hn⟩ := hreset
    rw [hitem] at hitem'
    cases hitem'
    rw [hv, value_of_reset hs hasked hn]
  · rw [← firstUnbound?_isSome]
    exact exists_congr fun n =>
      step_eq_unresolved hi hr hmarks ⟨hlong, (accepts_iff.mp ha).2⟩ hc k n
  · exact (step_eq_unresolved hi hr hmarks ⟨hlong, (accepts_iff.mp ha).2⟩ hc k n).mpr hn
  · rw [step_of_overlong hlong]
    rfl

/-- A name that is bound, forgotten and bound again, and a line that refers to another one. -/
theorem meaning_of_symbols_rebound :
    let e : Evaluator := .standard .known .usual
    let c : Call := .line ⟨.reference "a", .text "$b", .text "nowhere", .text ""⟩
    let items : List Item := [.call (.binding ⟨.text "a", .text ""⟩),
      .call (.procedure ⟨.text "resetState", .row [], .text ""⟩),
      .call (.binding ⟨.text "a", .text ""⟩), .call c]
    e.settings.marker.Marks ∧ e.Accepts e.start (items.take 3) ∧
      (e.before e.start items 3).lookup "a" = .ok .nothing ∧
      (e.step (e.before e.start items 3) (.call c) 3).result = .error (.unresolved "b") := by
  intro e c items
  have hm : e.settings.marker.Marks := Value.marks_text "$"
  have ha : e.Accepts e.start (items.take 3) := ⟨_, rfl⟩
  obtain ⟨-, hbound, -, hcall⟩ :=
    meaning_of_symbols (e := e) Instruments.foreign_known rfl hm items 3 (by decide) ha
  have hb : e.BoundBy e.start items 3 "a" 2 :=
    ⟨by decide, ⟨⟨.text "a", .text ""⟩, rfl, rfl⟩, fun i hi hik => absurd hi (by omega),
      fun i hi hik => absurd hi (by omega)⟩
  exact ⟨hm, ha, hbound "a" 2 hb, ((hcall c rfl (by decide)).1 rfl).2 "b" rfl⟩

/-- A line with a reference to an unbound name and a distance of more digits than can be written. It
is the distance that it fails over. -/
theorem overlong_before_unresolved :
    let e : Evaluator := .standard .known .usual
    let c : Call := .line ⟨.reference "b", .ofInt (10 ^ 4300), .text "TRUE", .text ""⟩
    let items : List Item := [.call c]
    e.settings.marker.Marks ∧ e.Accepts e.start (items.take 0) ∧
      e.start.referent? (.reference "b") = some "b" ∧ (∀ w, e.start.lookup "b" ≠ .ok w) ∧
      (e.step (e.before e.start items 0) (.call c) 0).result = .error .overlong := by
  intro e c items
  have hlong : c.isOverlong = true := by
    simp only [c, Call.isOverlong, Call.entries, List.any_cons, Value.isOverlong,
      Number.isOverlong_ten_pow, Bool.true_or, Bool.or_true]
  refine ⟨Value.marks_text "$", ⟨_, rfl⟩, rfl, (fun w h => by cases h), ?_⟩
  rw [step_of_overlong hlong]
  rfl

end Evaluator

end MetesBounds
