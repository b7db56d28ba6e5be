import MetesBounds.Proofs.Evaluation.Alike
import MetesBounds.Proofs.Evaluation.Failure
import MetesBounds.Proofs.Registry.Twins

/-!
# `Evaluation/Abreast` — two runs that differ in labels and positions at most

Labels and positions are written into the stations and read nowhere. So take two lists of calls that
differ in their memos at most, and two traverses that differ in their stations at most, and let the
calls stand at whatever positions. Step by step both runs do the same, or fail over the same kind of
thing: `Deed.Twin` says what remains different, the words of an error and the label of a station.
And the stations that they add to those that were there are in pairs; of each pair the label is that
of its own call. This holds whatever the traverses hold, even if they hold themselves.

Main statement: `Evaluator.inStep`.
-/

set_option autoImplicit false

namespace MetesBounds

/-! ## What may differ -/

/-- Two items are the same, or calls that differ in their memos at most. -/
inductive Item.ButMemo : Item → Item → Prop
  | call {c c' : Call} (h : c.ButMemo c') : ButMemo (.call c) (.call c')
  | other (v : Value) : ButMemo (.other v) (.other v)

theorem Item.ButMemo.refl (item : Item) : item.ButMemo item := by
  cases item with
  | call c => exact .call (.refl c)
  | other v => exact .other v

/-- An item is a call with a label. -/
def Item.Labels (item : Item) (label : String) : Prop :=
  ∃ c, item = .call c ∧ c.label = .ok label

/-- Two traverses are the same but for their stations. -/
structure Traverse.Abreast (t u : Traverse) : Prop where
  marker : t.marker = u.marker
  symbols : t.symbols = u.symbols
  points : t.points = u.points
  previous : t.previous = u.previous
  current : t.current = u.current
  lastResult : t.lastResult = u.lastResult

theorem Traverse.Abreast.refl (t : Traverse) : t.Abreast t := ⟨rfl, rfl, rfl, rfl, rfl, rfl⟩

/-- Both can be written, or neither can: a station always can. -/
theorem Traverse.Abreast.isOverlong_eq {t u : Traverse} (h : t.Abreast u) :
    t.isOverlong = u.isOverlong := by
  rw [Traverse.isOverlong, Traverse.isOverlong, h.symbols, h.lastResult, h.marker]

/-- Two lists of stations begin with the same ones, and go on with ones that stand in a relation, in
pairs. -/
def GoOn (R : Station → Station → Prop) (kept ss ss' : List Station) : Prop :=
  ∃ as bs, ss = kept ++ as ∧ ss' = kept ++ bs ∧ List.Forall₂ R as bs

theorem GoOn.refl (R : Station → Station → Prop) (ss : List Station) : GoOn R ss ss ss :=
  ⟨[], [], (List.append_nil ss).symm, (List.append_nil ss).symm, .nil⟩

/-! ## Deeds -/

namespace Deed

/-- The deeds of two items are the same, but for what an error says, and each item gives its own
label. -/
inductive Twin (item item' : Item) : Deed → Deed → Prop
  | refuse {err err' : Error} (h : err.family = err'.family) :
    Twin item item' (.refuse err) (.refuse err')
  | drop (p : Point) {err err' : Error} (h : err.family = err'.family) :
    Twin item item' (.drop p err) (.drop p err')
  | bind (s : Symbol) : Twin item item' (.bind s) (.bind s)
  | reckon (x : Float) : Twin item item' (.reckon x) (.reckon x)
  | place (p : Point) {label label' : String} (hl : item.Labels label)
    (hl' : item'.Labels label') : Twin item item' (.place p label) (.place p label')
  | clear : Twin item item' .clear .clear
  | reset : Twin item item' .reset .reset

namespace Twin

variable {item item' : Item} {d d' : Deed} {t u : Traverse}

theorem result (h : Twin item item' d d') : Akin Eq d.result d'.result := by
  cases h with
  | refuse h => exact .error h
  | drop _ h => exact .error h
  | _ => exact .ok rfl

theorem apply (h : Twin item item' d d') (ht : t.Abreast u) (i j : Int) :
    (d.apply i t).Abreast (d'.apply j u) := by
  obtain ⟨hm, hs, hpoints, hp, hc, hl⟩ := ht
  cases h with
  | refuse => exact ⟨hm, hs, hpoints, hp, hc, hl⟩
  | drop => exact ⟨hm, hs, hpoints, hp, hc, rfl⟩
  | bind s => exact ⟨hm, by simp only [Deed.apply, Traverse.bind, hs, hl], hpoints, hp, hc, hl⟩
  | reckon => exact ⟨hm, hs, hpoints, hp, hc, rfl⟩
  | place p => exact ⟨hm, hs, congrArg (· ++ [p]) hpoints, hc, rfl, rfl⟩
  | clear => exact ⟨hm, hs, rfl, hp, hc, rfl⟩
  | reset => exact ⟨hm, rfl, rfl, rfl, rfl, rfl⟩

variable {R : Station → Station → Prop} {kept : List Station} {i j : Int}

/-- Deeds that empty nothing add a pair of stations at most. -/
theorem goOn (h : Twin item item' d d') (hd : d.empties = false)
    (hs : GoOn R kept t.stations u.stations)
    (hR : ∀ p label label', item.Labels label → item'.Labels label' →
      R ⟨label, p, i⟩ ⟨label', p, j⟩) :
    GoOn R kept (d.apply i t).stations (d'.apply j u).stations := by
  cases h with
  | place p hl hl' =>
    obtain ⟨as, bs, ht, hu, hpairs⟩ := hs
    refine ⟨_, _, ?_, ?_, List.rel_append hpairs (.cons (hR p _ _ hl hl') .nil)⟩
    · simp only [Deed.apply, Traverse.advance, ht, List.append_assoc]
    · simp only [Deed.apply, Traverse.advance, hu, List.append_assoc]
  | clear => cases hd
  | reset => cases hd
  | _ => exact hs

/-- Deeds that empty the result leave no stations. -/
theorem goOn_of_empties (h : Twin item item' d d') (hd : d.empties = true) :
    GoOn R [] (d.apply i t).stations (d'.apply j u).stations := by
  cases h with
  | clear => exact .refl R []
  | reset => exact .refl R []
  | _ => cases hd

/-! ### Where twins come from -/

theorem ofBinding (name : Value) : Twin item item' (.ofBinding name) (.ofBinding name) := by
  rw [Deed.ofBinding]
  split
  · exact .bind _
  · exact .refuse rfl

theorem ofFound {c c' : Call} (hl : Akin (fun _ _ => True) c.label c'.label)
    {r r' : Except Error Point} (h : Akin Eq r r') :
    Twin (.call c) (.call c') (.ofFound c r) (.ofFound c' r') := by
  cases h with
  | error h => exact .refuse h
  | @ok p _ h =>
    subst h
    rw [Deed.ofFound, Deed.ofFound]
    rcases hl.error_or_ok with ⟨_, _, hlabel, hlabel', hfamily⟩ | ⟨_, _, hlabel, hlabel', -⟩
    · rw [hlabel, hlabel']
      exact .drop p hfamily
    · rw [hlabel, hlabel']
      exact .place p ⟨c, rfl, hlabel⟩ ⟨c', rfl, hlabel'⟩

/-- What is called is found under a text, so twins that are no errors come from one name. -/
theorem ofCalled {name name' : Value} {r r' : Except Error Value} (h : Akin Eq r r')
    (hn : ∀ v, r = .ok v → name = name') :
    Twin item item' (.ofCalled name r) (.ofCalled name' r') := by
  cases h with
  | error h => exact .refuse h
  | @ok v _ h =>
    subst h
    rw [← hn v rfl]
    unfold Deed.ofCalled
    split
    · next h => cases h
    · exact .reckon _
    · split
      · split
        · exact .reset
        · exact .clear
      · exact .clear

end Twin

end Deed

namespace Evaluator

variable {e : Evaluator} {t u : Traverse}

/-! ## One step -/

theorem akin_pointOf {c c' : PointCall} (hlat : c.latitude.Kin c'.latitude)
    (hlon : c.longitude.Kin c'.longitude) : Akin Eq (pointOf c) (pointOf c') :=
  (hlat.read .double).bindEq fun _ => (hlon.read .double).bindEq fun _ => .refl _

theorem akin_lineEnd (e : Evaluator) (ht : t.current = u.current) {c c' : LineCall}
    (hb : c.bearing.Kin c'.bearing) (hdist : c.distance.Kin c'.distance)
    (hdir : c.direction.Kin c'.direction)
    (hm : (Call.labelWith .line c.memo).isOk = (Call.labelWith .line c'.memo).isOk) :
    Akin Eq (e.lineEnd t c) (e.lineEnd u c') := by
  have hbearing : Akin Eq (bearingOf c) (bearingOf c') :=
    hdir.direction.bindEq fun _ => .ite (hb.bearing .double) (hb.opposite .double)
  rw [lineEnd, lineEnd, ht]
  cases u.current with
  | none => exact (Call.akin_labelWith hm).bind fun _ _ _ => .error rfl
  | some origin =>
    exact hbearing.bindEq fun _ => (hdist.metres _ _).bindEq fun _ => .refl _

theorem akin_curveEnd (e : Evaluator) (hp : t.previous = u.previous) (hc : t.current = u.current)
    {c c' : CurveCall} (h : c.Kin c') :
    Akin Eq (Prod.fst <$> e.curveEnd t c) (Prod.fst <$> e.curveEnd u c') := by
  rw [curveEnd, curveEnd, hp, hc]
  exact Curve.akin_endOnSphere h _ _ _ _ _ _

/-- Calls that no step can tell apart do the same to traverses that are the same but for their
stations. -/
theorem exists_twins_of_substituted (hr : e.procedures = .standard e.units) {c c' d d' : Call}
    (hl : e.Announces c) (hl' : e.Announces c') (hk : c.kind ≠ .binding)
    (hlabel : Akin (fun _ _ => True) c.label c'.label)
    (ht : t.Abreast u) (hs : t.substitute c = .ok d) (hs' : u.substitute c' = .ok d')
    (h : d.Twins d') (i j : Int) :
    ∃ deed deed', e.Does t (.call c) i deed ∧ e.Does u (.call c') j deed' ∧
      Deed.Twin (.call c) (.call c') deed deed' := by
  cases h with
  | point hlat hlon _ =>
    refine ⟨_, _, does_of_act hl hs rfl rfl i, does_of_act hl' hs' rfl rfl j, .ofFound hlabel ?_⟩
    exact akin_pointOf (hlat.twin (by decide)).kin (hlon.twin (by decide)).kin
  | line hb hdist hdir hm =>
    refine ⟨_, _, does_of_act hl hs rfl rfl i, does_of_act hl' hs' rfl rfl j, .ofFound hlabel ?_⟩
    exact akin_lineEnd e ht.current (hb.twin (by decide)).kin (hdist.twin (by decide)).kin
      (hdir.twin (by decide)).kin (hm.isOk_labelWith .line)
  | @curve c₁ c₁' hdist hdir hradius hdelta hturn hm =>
    obtain ⟨_, hact⟩ := act_curve (e := e) t c₁
    obtain ⟨_, hact'⟩ := act_curve (e := e) u c₁'
    refine ⟨_, _, does_of_act hl hs rfl hact i, does_of_act hl' hs' rfl hact' j,
      .ofFound hlabel ?_⟩
    exact akin_curveEnd e ht.previous ht.current
      ⟨(hdist.twin (by decide)).kin, (hdir.twin (by decide)).kin, (hradius.twin (by decide)).kin,
        (hdelta.twin (by decide)).kin, (hturn.twin (by decide)).kin, hm.isOk_labelWith .curve⟩
  | @procedure a a' hname hargs _ =>
    have htwin := hname.twin (by decide)
    refine ⟨_, _, does_of_asked hr hl hs i, does_of_asked hr hl' hs' j,
      .ofCalled (Registry.akin_call htwin (hargs.twin (by decide)) t u) fun v hv => ?_⟩
    obtain ⟨s, hs⟩ := Registry.name_of_call_eq_ok hv
    rcases htwin.kin with heq | ⟨hc, -⟩
    · exact heq
    · rw [hs] at hc
      cases hc
  | binding => exact absurd (Call.mapFields_kind hs).symm hk

/-- **Items that differ in their memos at most do the same to traverses that are the same but for
their stations.** -/
theorem exists_twins (hr : e.procedures = .standard e.units) {item item' : Item}
    (h : item.ButMemo item') (ht : t.Abreast u) (i j : Int) :
    ∃ deed deed', e.Does t item i deed ∧ e.Does u item' j deed' ∧
      Deed.Twin item item' deed deed' := by
  cases h with
  | other v => exact ⟨_, _, does_refuse rfl rfl, does_refuse rfl rfl, .refuse rfl⟩
  | @call c c' h =>
    have hlong := h.isOverlong_eq
    by_cases hl : e.Announces c
    · have hl' : e.Announces c' := ⟨hlong ▸ hl.1, hl.2⟩
      by_cases hk : c.kind = .binding
      · -- a binding call is not substituted, and binds whatever its memo is
        cases h with
        | @binding b b' hn _ =>
          have hname : b.name = b'.name := hn.resolve_right fun h => nomatch h.1
          refine ⟨_, _, does_binding hl t i, does_binding hl' u j, ?_⟩
          rw [hname]
          exact .ofBinding _
        | _ => cases hk
      · have hk' : c'.kind ≠ .binding := h.kind ▸ hk
        rcases (Traverse.akin_substitute ht.marker ht.symbols ht.isOverlong_eq h).error_or_ok with
          ⟨_, _, hs, hs', hfamily⟩ | ⟨_, _, hs, hs', htwins⟩
        · exact ⟨_, _, does_of_unresolved hl hk hs i, does_of_unresolved hl' hk' hs' j,
            .refuse hfamily⟩
        · exact exists_twins_of_substituted hr hl hl' hk h.akin_label ht hs hs' htwins i j
    · obtain ⟨err, herr⟩ := step_of_not_announces hl
      have hstep := herr t c i rfl
      have hstep' := herr u c' j hlong.symm
      refine ⟨.refuse err, .refuse err, does_refuse ?_ ?_, does_refuse ?_ ?_, .refuse rfl⟩
      · rw [hstep]; rfl
      · rw [hstep]; rfl
      · rw [hstep']; rfl
      · rw [hstep']; rfl

/-- The steps end alike. -/
theorem akin_step (hr : e.procedures = .standard e.units) {item item' : Item}
    (h : item.ButMemo item') (ht : t.Abreast u) (i j : Int) :
    Akin (fun _ _ => True) (e.step t item i).result (e.step u item' j).result := by
  obtain ⟨d, d', hd, hd', htwin⟩ := exists_twins hr h ht i j
  rcases htwin.result.error_or_ok with ⟨_, _, hres, hres', hfamily⟩ | ⟨_, _, hres, hres', -⟩
  · rw [hd.of_error hres, hd'.of_error hres']
    exact .error hfamily
  · obtain ⟨s, hs, -⟩ := hd.of_ok hres
    obtain ⟨s', hs', -⟩ := hd'.of_ok hres'
    rw [hs, hs']
    exact .ok trivial

/-! ## Runs -/

/-- The steps for two lists of items end alike, and leave traverses that are the same but for their
stations. These go on in pairs from those that were there, unless something is emptied, and then
from none. -/
structure InStep (e : Evaluator) (R : Station → Station → Prop) (kept : List Station) (i j : Nat)
    (t u : Traverse) (items items' : List Item) : Prop where
  result : Akin Eq (e.walk i t items).result (e.walk j u items').result
  traverse : (e.walk i t items).traverse.Abreast (e.walk j u items').traverse
  kept : ¬e.Empties i t items →
    GoOn R kept (e.walk i t items).traverse.stations (e.walk j u items').traverse.stations
  emptied : e.Empties i t items →
    GoOn R [] (e.walk i t items).traverse.stations (e.walk j u items').traverse.stations

/-- **Items that differ in their memos at most keep traverses that are the same but for their
stations in step**, whatever relation holds of the two stations that calls at one place lead to. -/
theorem inStep (hr : e.procedures = .standard e.units) {R : Station → Station → Prop}
    {kept : List Station} {items items' : List Item} (h : List.Forall₂ Item.ButMemo items items')
    {i j : Nat} (ht : t.Abreast u) (hs : GoOn R kept t.stations u.stations)
    (hR : ∀ k item item', items[k]? = some item → items'[k]? = some item' →
      ∀ p label label', item.Labels label → item'.Labels label' →
        R ⟨label, p, (i + k : Nat)⟩ ⟨label', p, (j + k : Nat)⟩) :
    e.InStep R kept i j t u items items' := by
  induction h generalizing i j t u kept with
  | nil => exact ⟨.ok rfl, ht, fun _ => hs, fun h => nomatch h⟩
  | @cons item item' rest rest' hitem _ ih =>
    obtain ⟨d, d', hd, hd', htwin⟩ := exists_twins hr hitem ht i j
    have hpair := hR 0 item item' rfl rfl
    rcases htwin.result.error_or_ok with ⟨_, _, hres, hres', hfamily⟩ | ⟨_, _, hres, hres', -⟩
    · obtain ⟨hw, htrav⟩ := hd.walk_cons_of_error hres rest
      obtain ⟨hw', htrav'⟩ := hd'.walk_cons_of_error hres' rest'
      refine ⟨?_, ?_, fun _ => ?_, fun hempties => ?_⟩
      · rw [hw, hw']
        exact .error hfamily
      · rw [htrav, htrav']
        exact htwin.apply ht i j
      · rw [htrav, htrav']
        exact htwin.goOn (Deed.empties_of_error hres) hs hpair
      · exact absurd hempties (hd.not_empties_cons hres rest)
    · obtain ⟨hw, htrav⟩ := hd.walk_cons hres rest
      obtain ⟨hw', htrav'⟩ := hd'.walk_cons hres' rest'
      have hempties := hd.empties_cons hres rest
      -- the other items stand one position further on
      have hR' : ∀ k item item', rest[k]? = some item → rest'[k]? = some item' →
          ∀ p label label', item.Labels label → item'.Labels label' →
            R ⟨label, p, (i + 1 + k : Nat)⟩ ⟨label', p, (j + 1 + k : Nat)⟩ := by
        intro k item item' hk hk'
        rw [Nat.add_right_comm i, Nat.add_right_comm j]
        exact hR (k + 1) item item' hk hk'
      cases he : d.empties with
      | false =>
        have hrest := ih (htwin.apply ht i j) (htwin.goOn he hs hpair) hR'
        rw [he] at hempties
        refine ⟨hw ▸ hw' ▸ hrest.result, htrav ▸ htrav' ▸ hrest.traverse, fun hnot => ?_,
          fun hsome => ?_⟩
        · rw [htrav, htrav']
          exact hrest.kept fun h => hnot (hempties.mpr (.inr h))
        · rw [htrav, htrav']
          exact hrest.emptied ((hempties.mp hsome).resolve_left Bool.false_ne_true)
      | true =>
        have hrest := ih (htwin.apply ht i j) (htwin.goOn_of_empties he) hR'
        refine ⟨hw ▸ hw' ▸ hrest.result, htrav ▸ htrav' ▸ hrest.traverse, fun hnot => ?_,
          fun _ => ?_⟩
        · exact absurd (hempties.mpr (.inl he)) hnot
        · rw [htrav, htrav']
          -- nothing is kept of what the rest empties either
          by_cases hlater : e.Empties (i + 1) (d.apply i t) rest
          · exact hrest.emptied hlater
          · exact hrest.kept hlater

/-! ## Evaluations -/

theorem akin_finish (e : Evaluator) (t u : Traverse) (m n : Nat) :
    Akin (fun _ _ => True) (e.finish t m).result (e.finish u n).result := by
  rw [finish, finish]
  by_cases hl : e.Logs
  · obtain ⟨_, h⟩ := note_of_logs hl .info
      ("Evaluated " ++ toString m ++ " records into " ++ toString t.points.length ++ " points")
    obtain ⟨_, h'⟩ := note_of_logs hl .info
      ("Evaluated " ++ toString n ++ " records into " ++ toString u.points.length ++ " points")
    simp only [h, h']
    exact .ok trivial
  · obtain ⟨err, herr⟩ := note_of_not_logs hl
    simp only [herr]
    exact .error rfl

/-- An evaluation comes to what its steps come to, and then to what its end comes to. -/
theorem result_evaluate_eq (e : Evaluator) (t : Traverse) (items : List Item) :
    (e.evaluate t items).result = (e.walk 0 t items).result >>= fun _ =>
      (fun _ => Result.ofTraverse (e.evaluate t items).traverse) <$>
        (e.finish (e.walk 0 t items).traverse items.length).result := by
  rw [traverse_evaluate, evaluate, resultOf, runFrom_none]
  cases hw : (e.walk 0 t items).result with
  | error err => simp only [hw]; rfl
  | ok _ =>
    simp only [Outcome.after, finish_traverse, Nat.zero_add]
    rfl

/-- Evaluations end alike where their steps do. -/
theorem akin_evaluate {items items' : List Item}
    (h : Akin Eq (e.walk 0 t items).result (e.walk 0 u items').result) :
    Akin (fun r r' => r = .ofTraverse (e.evaluate t items).traverse ∧
        r' = .ofTraverse (e.evaluate u items').traverse)
      (e.evaluate t items).result (e.evaluate u items').result := by
  rw [result_evaluate_eq, result_evaluate_eq e u]
  exact h.bind fun _ _ _ => (akin_finish e _ _ _ _).map fun _ _ _ => ⟨rfl, rfl⟩

end Evaluator

end MetesBounds
