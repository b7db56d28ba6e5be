import MetesBounds.Proofs.Evaluation.Deed

/-!
# `Evaluation/Alike` — two runs of one list of items, side by side

The result of an evaluation is written and never read: no call looks at the points found so far, at
their stations or at the position it stands at. `Traverse.SameBut` relates two traverses that differ
in nothing else, and `Evaluator.walk_alike` says that the same items take such traverses to the same
end and to such traverses again.

One thing could look at the result: a value in which the traverse itself stands is shown with it.
`Traverse.Settled` says that there is none, and the standard procedures never make one.

Main statement: `Evaluator.walk_alike`.
-/

set_option autoImplicit false

namespace MetesBounds

namespace Traverse

variable {t u : Traverse}

/-! ## What names stand for -/

/-- No traverse stands in what is held, so showing it later shows the same. -/
structure Settled (t : Traverse) : Prop where
  symbols : ∀ n v, t.symbols.get? (.named n) = some v → ∀ f, v.mapRunning f = v
  lastResult : ∀ f, t.lastResult.mapRunning f = t.lastResult

namespace Settled

theorem start (marker : Value) : (Traverse.start marker).Settled :=
  ⟨(fun _ _ h => nomatch h), fun _ => rfl⟩

theorem apply (h : t.Settled) (d : Deed) (index : Int) : (d.apply index t).Settled := by
  cases d with
  | refuse => exact h
  | drop => exact ⟨h.symbols, fun _ => rfl⟩
  | bind s =>
    refine ⟨fun n v hv => ?_, h.lastResult⟩
    rw [Deed.apply, symbols_bind] at hv
    split at hv
    · cases hv; exact h.lastResult
    · exact h.symbols n v hv
  | reckon => exact ⟨h.symbols, fun _ => rfl⟩
  | place => exact ⟨h.symbols, fun _ => rfl⟩
  | clear => exact ⟨h.symbols, fun _ => rfl⟩
  | reset => exact start t.marker

/-- What a settled table says of a name does not depend on the rest of the traverse. -/
theorem lookup_eq (h : u.Settled) (hs : t.symbols = u.symbols) (n : String) :
    t.lookup n = u.lookup n := by
  rw [lookup, lookup, hs]
  cases hv : u.symbols.get? (.named n) with
  | none => rfl
  | some v => simp only [refresh, h.symbols n v hv]

end Settled

/-- Substitutions do the same where names stand for the same. -/
theorem substitute_congr (hm : t.marker = u.marker) (hl : ∀ n, t.lookup n = u.lookup n) (c : Call) :
    t.substitute c = u.substitute c := by
  have hresolve : t.resolve = u.resolve := by
    funext v
    simp only [resolve, hm, hl]
  have hfield : t.resolveField = u.resolveField := by
    funext f v
    cases v <;> simp only [resolveField, hresolve]
  rw [substitute, substitute, hfield]

end Traverse

/-! ## Traverses that differ in their results -/

/-- The station of a call that stands a number of positions further on. -/
def Station.later (count : Nat) (s : Station) : Station := { s with index := s.index + count }

/-- Two traverses that are the same but for their results and the last result: the second has found
some points more, before those of the first, and the calls of the first stand a number of positions
further on. -/
structure Traverse.SameBut (ps : List Point) (ss : List Station) (count : Nat) (t u : Traverse) :
    Prop where
  marker : t.marker = u.marker
  symbols : t.symbols = u.symbols
  previous : t.previous = u.previous
  current : t.current = u.current
  points : u.points = ps ++ t.points
  stations : ∃ rest, u.stations = ss ++ rest ∧ t.stations = rest.map (Station.later count)

namespace Traverse.SameBut

variable {ps : List Point} {ss : List Station} {count : Nat} {t u : Traverse}

theorem refl (t : Traverse) (count : Nat) (h : t.stations = []) : SameBut [] [] count t t :=
  ⟨rfl, rfl, rfl, rfl, rfl, [], h, h⟩

/-- A deed that empties nothing keeps what the second has found more. -/
theorem apply (h : SameBut ps ss count t u) {d : Deed} (hd : d.empties = false)
    (hb : ∀ s, d = .bind s → t.lastResult = u.lastResult) (index : Int) :
    SameBut ps ss count (d.apply (index + count) t) (d.apply index u) := by
  obtain ⟨hm, hs, hp, hc, hpoints, rest, hu, ht⟩ := h
  cases d with
  | refuse => exact ⟨hm, hs, hp, hc, hpoints, rest, hu, ht⟩
  | drop => exact ⟨hm, hs, hp, hc, hpoints, rest, hu, ht⟩
  | bind s =>
    refine ⟨hm, ?_, hp, hc, hpoints, rest, hu, ht⟩
    simp only [Deed.apply, bind, hs, hb s rfl]
  | reckon => exact ⟨hm, hs, hp, hc, hpoints, rest, hu, ht⟩
  | place p label =>
    refine ⟨hm, hs, hc, rfl, ?_, rest ++ [⟨label, p, index⟩], ?_, ?_⟩
    · simp [Deed.apply, hpoints]
    · simp [Deed.apply, hu]
    · simp [Deed.apply, ht, Station.later]
  | clear => cases hd
  | reset => cases hd

/-- A deed that empties the result leaves nothing more. -/
theorem apply_of_empties (h : SameBut ps ss count t u) {d : Deed} (hd : d.empties = true)
    (i j : Int) : SameBut [] [] count (d.apply i t) (d.apply j u) := by
  cases d with
  | clear => exact ⟨h.marker, h.symbols, h.previous, h.current, rfl, [], rfl, rfl⟩
  | reset =>
    refine ⟨h.marker, rfl, rfl, rfl, rfl, [], rfl, rfl⟩
  | _ => cases hd

end Traverse.SameBut

/-- A deed that is done decides the last result, unless it is to bind it. -/
theorem Deed.lastResult_apply_of_ok {d : Deed} {b : Bool} (hd : d.result = .ok b) {t u : Traverse}
    (hb : ∀ s, d = .bind s → t.lastResult = u.lastResult) (i j : Int) :
    (d.apply i t).lastResult = (d.apply j u).lastResult := by
  cases d with
  | refuse => cases hd
  | drop => cases hd
  | bind s => exact hb s rfl
  | _ => rfl

/-- A deed keeps last results the same. -/
theorem Deed.lastResult_apply {t u : Traverse} (h : t.lastResult = u.lastResult) (d : Deed)
    (i j : Int) : (d.apply i t).lastResult = (d.apply j u).lastResult := by
  cases d with
  | refuse => exact h
  | bind s => exact h
  | _ => rfl

namespace Evaluator

variable {e : Evaluator} {t u : Traverse} {ps : List Point} {ss : List Station} {d : Nat}

/-! ## The same items -/

/-- The steps for some items complete a call of a procedure that empties the result. -/
inductive Empties (e : Evaluator) : Nat → Traverse → List Item → Prop
  | here {count : Nat} {t : Traverse} {item : Item} {rest : List Item} (ha : t.AsksToEmpty item)
    (hs : ∃ s, (e.step t item count).result = .ok s) : Empties e count t (item :: rest)
  | later {count : Nat} {t : Traverse} {item : Item} {rest : List Item}
    (hs : ∃ s, (e.step t item count).result = .ok s)
    (h : Empties e (count + 1) (e.step t item count).traverse rest) :
    Empties e count t (item :: rest)

/-- A first item whose deed is done leaves the rest to the other items. -/
theorem Does.walk_cons {item : Item} {count : Nat} {deed : Deed} {produced : Bool}
    (h : e.Does u item count deed) (hd : deed.result = .ok produced) (rest : List Item) :
    (e.walk count u (item :: rest)).result =
        (e.walk (count + 1) (deed.apply count u) rest).result ∧
      (e.walk count u (item :: rest)).traverse =
        (e.walk (count + 1) (deed.apply count u) rest).traverse := by
  obtain ⟨s, hs, -⟩ := h.of_ok hd
  rw [walk_cons_of_ok hs, h.traverse]
  exact ⟨rfl, rfl⟩

/-- A first item whose deed fails leaves nothing to the others. -/
theorem Does.walk_cons_of_error {item : Item} {count : Nat} {deed : Deed} {err : Error}
    (h : e.Does u item count deed) (hd : deed.result = .error err) (rest : List Item) :
    (e.walk count u (item :: rest)).result = .error err ∧
      (e.walk count u (item :: rest)).traverse = deed.apply count u := by
  obtain ⟨hres, htrav⟩ := Evaluator.walk_cons_of_error (h.of_error hd) rest
  exact ⟨hres, htrav.trans h.traverse⟩

/-- Where the step for the first item is completed, what empties the result is its deed or comes
later. -/
theorem Does.empties_cons {item : Item} {count : Nat} {deed : Deed} {produced : Bool}
    (h : e.Does u item count deed) (hd : deed.result = .ok produced) (rest : List Item) :
    e.Empties count u (item :: rest) ↔
      deed.empties = true ∨ e.Empties (count + 1) (deed.apply count u) rest := by
  obtain ⟨s, hs, -⟩ := h.of_ok hd
  rw [h.empties]
  constructor
  · rintro (⟨ha, -⟩ | ⟨-, hrest⟩)
    · exact .inl ⟨ha, produced, hd⟩
    · rw [h.traverse] at hrest
      exact .inr hrest
  · rintro (⟨ha, -⟩ | hrest)
    · exact .here ha ⟨s, hs⟩
    · rw [← h.traverse] at hrest
      exact .later ⟨s, hs⟩ hrest

/-- What fails at the first item empties nothing. -/
theorem Does.not_empties_cons {item : Item} {count : Nat} {deed : Deed} {err : Error}
    (h : e.Does u item count deed) (hd : deed.result = .error err) (rest : List Item) :
    ¬e.Empties count u (item :: rest) := by
  rintro (⟨-, s, hs⟩ | ⟨⟨s, hs⟩, -⟩)
  · rw [h.of_error hd] at hs
    cases hs
  · rw [h.of_error hd] at hs
    cases hs

/-- There is a first item, and the step for it is completed. -/
def Begins (e : Evaluator) (count : Nat) (t : Traverse) (items : List Item) : Prop :=
  ∃ item s, items.head? = some item ∧ (e.step t item count).result = .ok s

/-- The steps for some items on two traverses, those on the first `d` positions further on, come to
the same end and leave such traverses again. -/
structure Alike (e : Evaluator) (ps : List Point) (ss : List Station) (d count : Nat)
    (t u : Traverse) (items : List Item) : Prop where
  result : (e.walk (count + d) t items).result = (e.walk count u items).result
  kept : ¬e.Empties count u items → Traverse.SameBut ps ss d
    (e.walk (count + d) t items).traverse (e.walk count u items).traverse
  emptied : e.Empties count u items → Traverse.SameBut [] [] d
    (e.walk (count + d) t items).traverse (e.walk count u items).traverse
  lastResult : t.lastResult = u.lastResult ∨ e.Begins count u items →
    (e.walk (count + d) t items).traverse.lastResult =
      (e.walk count u items).traverse.lastResult

/-- A first step that fails ends both. -/
theorem Alike.of_error {item : Item} {rest : List Item} {count : Nat} {deed : Deed} {err : Error}
    (h : Traverse.SameBut ps ss d t u) (ht : e.Does t item (count + d : Nat) deed)
    (hu : e.Does u item count deed) (hd : deed.result = .error err)
    (hb : ∀ s, deed = .bind s → t.lastResult = u.lastResult) :
    e.Alike ps ss d count t u (item :: rest) := by
  obtain ⟨hres, htrav⟩ := ht.walk_cons_of_error hd rest
  obtain ⟨hres', htrav'⟩ := hu.walk_cons_of_error hd rest
  refine ⟨hres.trans hres'.symm, fun _ => ?_, fun hempties => ?_, fun hlast => ?_⟩
  · rw [htrav, htrav']
    exact h.apply (Deed.empties_of_error hd) hb count
  · exact absurd hempties (hu.not_empties_cons hd rest)
  · rcases hlast with hlast | ⟨item', s, hitem, hs⟩
    · rw [htrav, htrav']
      exact Deed.lastResult_apply hlast deed _ _
    · cases hitem
      rw [hu.of_error hd] at hs
      cases hs

/-- A first step that is done leaves the rest to the other items. -/
theorem Alike.of_ok {item : Item} {rest : List Item} {count : Nat} {deed : Deed} {produced : Bool}
    (ht : e.Does t item (count + d : Nat) deed) (hu : e.Does u item count deed)
    (hd : deed.result = .ok produced)
    (hlast : (deed.apply (count + d : Nat) t).lastResult = (deed.apply count u).lastResult)
    (hkept : deed.empties = false → e.Alike ps ss d (count + 1) (deed.apply (count + d : Nat) t)
      (deed.apply count u) rest)
    (hemptied : deed.empties = true → e.Alike [] [] d (count + 1)
      (deed.apply (count + d : Nat) t) (deed.apply count u) rest) :
    e.Alike ps ss d count t u (item :: rest) := by
  have hwalk := ht.walk_cons hd rest
  have hwalk' := hu.walk_cons hd rest
  rw [Nat.add_right_comm] at hwalk
  have hempties := hu.empties_cons hd rest
  refine ⟨?_, fun hnot => ?_, fun hsome => ?_, fun _ => ?_⟩
  · rw [hwalk.1, hwalk'.1]
    cases he : deed.empties with
    | false => exact (hkept he).result
    | true => exact (hemptied he).result
  · rw [hwalk.2, hwalk'.2]
    cases he : deed.empties with
    | false => exact (hkept he).kept fun h => hnot (hempties.mpr (.inr h))
    | true => exact absurd (hempties.mpr (.inl he)) hnot
  · rw [hwalk.2, hwalk'.2]
    cases he : deed.empties with
    | false => exact (hkept he).emptied ((hempties.mp hsome).resolve_left (by simp [he]))
    | true =>
      by_cases hrest : e.Empties (count + 1) (deed.apply count u) rest
      · exact (hemptied he).emptied hrest
      · exact (hemptied he).kept hrest
  · rw [hwalk.2, hwalk'.2]
    cases he : deed.empties with
    | false => exact (hkept he).lastResult (.inl hlast)
    | true => exact (hemptied he).lastResult (.inl hlast)

/-- **The same items take traverses that are the same but for their results to the same end**, and
to such traverses again: what the second has found more stays there until something is emptied. The
last results need to be the same only where they are bound first. -/
theorem walk_alike (hr : e.procedures = .standard e.units) {items : List Item} {count : Nat}
    (h : Traverse.SameBut ps ss d t u) (hu : u.Settled)
    (hfirst : ∀ b, items.head? = some (.call (.binding b)) → t.lastResult = u.lastResult) :
    e.Alike ps ss d count t u items := by
  induction items generalizing count t u ps ss with
  | nil =>
    refine ⟨rfl, fun _ => h, (fun hempties => nomatch hempties), fun hlast => ?_⟩
    rcases hlast with hlast | ⟨item, s, hitem, -⟩
    · exact hlast
    · cases hitem
  | cons item rest ih =>
    have hsub : ∀ c, item = .call c → t.substitute c = u.substitute c := fun c _ =>
      Traverse.substitute_congr h.marker (hu.lookup_eq h.symbols) c
    obtain ⟨deed, htd, hud⟩ :=
      exists_does (e := e) hr hsub h.previous h.current (count + d : Nat) count
    have hb : ∀ s, deed = .bind s → t.lastResult = u.lastResult := by
      intro s hs
      obtain ⟨b, rfl⟩ := hud.binds s hs
      exact hfirst b rfl
    cases hd : deed.result with
    | error err => exact .of_error h htd hud hd hb
    | ok produced =>
      have hlast := Deed.lastResult_apply_of_ok hd hb (count + d : Nat) count
      refine .of_ok htd hud hd hlast (fun he => ?_) (fun he => ?_)
      · exact ih (h.apply he hb count) (hu.apply deed count) fun _ _ => hlast
      · exact ih (h.apply_of_empties he _ _) (hu.apply deed count) fun _ _ => hlast

end Evaluator

end MetesBounds
