import Mathlib.Data.List.Induction
import MetesBounds.Proofs.Registry.Fitting
import MetesBounds.Proofs.Registry.Names
import MetesBounds.Proofs.Registry.Standard

/-!
# `Registry/Registration` — a registry holds what was accepted last

A registration is accepted if nothing speaks against it, and it then puts one entry under its name.
Where something does, the registry stays as it was. So whatever registrations are tried one after
another, each name has the entry of the last one of that name that was accepted.

What a call then comes to is settled by the entry that it finds: the procedure is run if the
arguments fit, the traverse before them where it needs that, and otherwise nothing is run.

Main statement: `Registry.registered_spec`.
-/

set_option autoImplicit false

namespace MetesBounds

/-- A registration as it is asked for. -/
structure Registration where
  name : Value
  candidate : Candidate
  needsTraverse : Bool
  replace : Bool

/-- The parameters of what is offered, where they are stated, stand in the order that a signature
keeps to. -/
def Registration.IsArranged (g : Registration) : Prop :=
  ∀ p ps, g.candidate = .procedure p → p.signature = .stated ps → Arranged ps

/-- The arguments with which an entry's procedure is run. -/
def Entry.given (e : Entry) (t : Traverse) (items : List Value) : List Value :=
  if e.needsTraverse then .running t.written? :: items else items

namespace Registry

/-- Nothing speaks against a registration, which puts an entry under a name. -/
structure Accepts (r : Registry) (g : Registration) (s : String) (e : Entry) : Prop where
  named : g.name = .text s
  visible : ∃ c ∈ s.toList, Text.isBlank c = false
  free : r.get? s = none ∨ g.replace = true
  offered : g.candidate = .procedure e.procedure
  needs : g.needsTraverse = e.needsTraverse
  room : e.needsTraverse = true → ∀ ps, e.procedure.signature = .stated ps →
    ∃ p ∈ ps, p.role.isPlaced = true

/-- A registry after a registration was tried. -/
def after (r : Registry) (g : Registration) : Registry :=
  match r.register g.name g.candidate g.needsTraverse g.replace with
  | .ok (r', _) => r'
  | .error _ => r

/-- What registrations that are tried one after another make of the registry without entries. -/
def registered (gs : List Registration) : Registry := gs.foldl after empty

/-- The last registration of a name that was accepted has put an entry there. -/
def LastAccepted (gs : List Registration) (s : String) (e : Entry) : Prop :=
  ∃ k g, gs[k]? = some g ∧ (registered (gs.take k)).Accepts g s e ∧
    ∀ j g', k < j → gs[j]? = some g' → ∀ e', ¬(registered (gs.take j)).Accepts g' s e'

/-! ## One registration -/

section Registering

variable {r r' : Registry} {g : Registration} {s : String} {e : Entry}

theorem nameOf_eq_ok {v : Value} :
    nameOf v = .ok s ↔ v = .text s ∧ ∃ c ∈ s.toList, Text.isBlank c = false := by
  cases v with
  | text s' =>
    rw [nameOf]
    split
    · next hblank =>
      refine iff_of_false nofun ?_
      rintro ⟨hs, c, hc, hvisible⟩
      cases hs
      rw [List.all_eq_true.mp hblank c hc] at hvisible
      cases hvisible
    · next hblank =>
      rw [List.all_eq_true] at hblank
      constructor
      · intro h
        cases h
        refine ⟨rfl, ?_⟩
        simpa using hblank
      · rintro ⟨hs, -⟩
        cases hs
        rfl
  | _ => exact iff_of_false nofun nofun

/-- Just what a registration that is accepted puts where. -/
theorem entryOf_eq_ok (hg : g.IsArranged) :
    r.entryOf g.name g.candidate g.needsTraverse g.replace = .ok (s, e) ↔ r.Accepts g s e := by
  rw [entryOf, bind_eq_ok]
  constructor
  · rintro ⟨s', hname, h⟩
    obtain ⟨hnamed, hvisible⟩ := nameOf_eq_ok.mp hname
    split at h
    · cases h
    · next hfree =>
      cases hcandidate : g.candidate with
      | other shown => rw [hcandidate] at h; cases h
      | procedure p =>
        rw [hcandidate] at h
        dsimp only at h
        split at h
        · cases h
        · next hroom =>
          cases h
          refine ⟨hnamed, hvisible, ?_, hcandidate, rfl, ?_⟩
          · simpa [or_iff_not_imp_left, Option.isSome_iff_ne_none] using hfree
          · intro hneeds ps hps
            apply (Procedure.hasRoom_iff (hg p ps hcandidate hps)).mp
            have htraverse : g.needsTraverse = true := hneeds
            rw [htraverse, hps] at hroom
            simpa [Signature.parameters?] using hroom
  · rintro ⟨hnamed, hvisible, hfree, hcandidate, hneeds, hroom⟩
    refine ⟨s, nameOf_eq_ok.mpr ⟨hnamed, hvisible⟩, ?_⟩
    have htaken : ¬((r.get? s).isSome && !g.replace) = true := by
      rcases hfree with hnone | hreplace
      · simp [hnone]
      · simp [hreplace]
    rw [if_neg htaken, hcandidate]
    have hfits : ¬(g.needsTraverse && !e.procedure.signature.parameters?.all Procedure.hasRoom) =
        true := by
      cases hsignature : e.procedure.signature with
      | unstated name => simp [Signature.parameters?]
      | stated ps =>
        rw [hneeds]
        cases htraverse : e.needsTraverse with
        | false => simp
        | true =>
          have hall := (Procedure.hasRoom_iff (hg e.procedure ps hcandidate hsignature)).mpr
            (hroom htraverse ps hsignature)
          simp [Signature.parameters?, hall]
    dsimp only
    rw [if_neg hfits, hneeds]

/-- Just what a registration that is accepted makes of a registry. -/
theorem register_eq_ok (hg : g.IsArranged) :
    r.register g.name g.candidate g.needsTraverse g.replace = .ok (r', e) ↔
      ∃ s, r.Accepts g s e ∧ r' = ⟨r.entries.insert s e⟩ := by
  rw [register, bind_eq_ok]
  constructor
  · rintro ⟨⟨s, e'⟩, hentry, h⟩
    cases h
    exact ⟨s, (entryOf_eq_ok hg).mp hentry, rfl⟩
  · rintro ⟨s, haccepts, hr'⟩
    subst hr'
    exact ⟨(s, e), (entryOf_eq_ok hg).mpr haccepts, rfl⟩

/-- What is refused is refused over a value or over its kind. -/
theorem family_of_register_eq_error {err : Error}
    (h : r.register g.name g.candidate g.needsTraverse g.replace = .error err) :
    err.family = .value ∨ err.family = .type := by
  rw [register, bind_eq_error] at h
  rcases h with h | ⟨_, _, h⟩
  · rw [entryOf, bind_eq_error] at h
    rcases h with h | ⟨s, _, h⟩
    · unfold nameOf at h
      split at h
      · split at h <;> cases h
        exact .inl rfl
      · cases h
        exact .inl (Value.blamed_of (p := fun err => err.family = .value) rfl (fun _ => rfl) _)
    · split at h
      · cases h
        exact .inl rfl
      · split at h
        · cases h
          exact .inr rfl
        · split at h <;> cases h
          exact .inr rfl
  · cases h

theorem after_of_accepts (hg : g.IsArranged) (h : r.Accepts g s e) :
    r.after g = ⟨r.entries.insert s e⟩ := by
  rw [after, (register_eq_ok hg).mpr ⟨s, h, rfl⟩]

/-- What is not accepted is refused. -/
theorem register_of_not_accepts (hg : g.IsArranged) (h : ∀ s e, ¬r.Accepts g s e) :
    ∃ err, r.register g.name g.candidate g.needsTraverse g.replace = .error err := by
  cases hr : r.register g.name g.candidate g.needsTraverse g.replace with
  | error err => exact ⟨err, rfl⟩
  | ok out =>
    obtain ⟨s, haccepts, -⟩ := (register_eq_ok hg).mp hr
    exact absurd haccepts (h s out.2)

theorem after_of_not_accepts (hg : g.IsArranged) (h : ∀ s e, ¬r.Accepts g s e) :
    r.after g = r := by
  obtain ⟨err, herr⟩ := register_of_not_accepts hg h
  rw [after, herr]

/-- A name has the entry that is put there, or else the entry that it had. -/
theorem get?_after (hg : g.IsArranged) :
    (r.after g).get? s = some e ↔
      r.Accepts g s e ∨ (∀ e', ¬r.Accepts g s e') ∧ r.get? s = some e := by
  by_cases h : ∃ s' e', r.Accepts g s' e'
  · obtain ⟨s', e', haccepts⟩ := h
    rw [after_of_accepts hg haccepts]
    show (r.entries.insert s' e').get? s = some e ↔ _
    rw [Table.get?_insert]
    by_cases hs : s = s'
    · subst hs
      rw [if_pos rfl]
      constructor
      · intro he
        cases he
        exact .inl haccepts
      · rintro (he | ⟨hnone, -⟩)
        · have hok := (entryOf_eq_ok hg).mpr haccepts
          rw [(entryOf_eq_ok hg).mpr he] at hok
          cases hok
          rfl
        · exact absurd haccepts (hnone e')
    · rw [if_neg hs]
      have hnone : ∀ e'', ¬r.Accepts g s e'' := by
        intro e'' he
        have hname := he.named.symm.trans haccepts.named
        exact hs (Value.text.inj hname)
      exact ⟨fun hget => .inr ⟨hnone, hget⟩, fun hcases =>
        hcases.elim (fun he => absurd he (hnone e)) And.right⟩
  · have hnone : ∀ s' e', ¬r.Accepts g s' e' := fun s' e' he => h ⟨s', e', he⟩
    rw [after_of_not_accepts hg hnone]
    exact ⟨fun hget => .inr ⟨hnone s, hget⟩, fun hcases =>
      hcases.elim (fun he => absurd he (hnone s e)) And.right⟩

theorem nodup_keys_after (h : r.entries.keys.Nodup) (g : Registration) :
    (r.after g).entries.keys.Nodup := by
  rw [after]
  split
  · next r' e hr =>
    rw [register, bind_eq_ok] at hr
    obtain ⟨⟨s, e'⟩, -, hr⟩ := hr
    cases hr
    exact Table.nodup_keys_insert h s e
  · exact h

end Registering

/-! ## One registration after another -/

section History

variable {gs : List Registration} {g : Registration} {s : String} {e : Entry}

theorem registered_concat (gs : List Registration) (g : Registration) :
    registered (gs ++ [g]) = (registered gs).after g := by
  rw [registered, List.foldl_append]
  rfl

theorem getElem?_concat_iff {k : Nat} {g' : Registration} :
    (gs ++ [g])[k]? = some g' ↔ gs[k]? = some g' ∨ k = gs.length ∧ g' = g := by
  rcases Nat.lt_trichotomy k gs.length with hlt | heq | hgt
  · rw [List.getElem?_append_left hlt]
    exact ⟨.inl, fun h => h.resolve_right fun hk => Nat.ne_of_lt hlt hk.1⟩
  · subst heq
    rw [List.getElem?_concat_length, List.getElem?_eq_none (Nat.le_refl _)]
    simp [eq_comm]
  · rw [List.getElem?_eq_none (by rw [List.length_append]; exact hgt),
      List.getElem?_eq_none (Nat.le_of_lt hgt)]
    exact iff_of_false nofun fun h => h.elim nofun fun hk => Nat.ne_of_gt hgt hk.1

/-- One more registration is the last one, or leaves the last one what it was. -/
theorem lastAccepted_concat :
    LastAccepted (gs ++ [g]) s e ↔ (registered gs).Accepts g s e ∨
      (∀ e', ¬(registered gs).Accepts g s e') ∧ LastAccepted gs s e := by
  have htake : ∀ k ≤ gs.length, registered ((gs ++ [g]).take k) = registered (gs.take k) :=
    fun k hk => by rw [List.take_append_of_le_length hk]
  have hwhole : registered ((gs ++ [g]).take gs.length) = registered gs := by
    rw [htake _ (Nat.le_refl _), List.take_length]
  have hlt : ∀ {j g'}, gs[j]? = some g' → j < gs.length :=
    fun hj => (List.getElem?_eq_some_iff.mp hj).1
  constructor
  · rintro ⟨k, g', hk, haccepts, hlater⟩
    rcases getElem?_concat_iff.mp hk with hk | ⟨rfl, rfl⟩
    · right
      refine ⟨fun e' he' => ?_, k, g', hk, ?_, fun j g'' hj hg'' e' he' => ?_⟩
      · exact hlater gs.length g (hlt hk) List.getElem?_concat_length e' (hwhole ▸ he')
      · rwa [htake k (Nat.le_of_lt (hlt hk))] at haccepts
      · refine hlater j g'' hj (getElem?_concat_iff.mpr (.inl hg'')) e' ?_
        rwa [htake j (Nat.le_of_lt (hlt hg''))]
    · exact .inl (hwhole ▸ haccepts)
  · rintro (haccepts | ⟨hnone, k, g', hk, haccepts, hlater⟩)
    · refine ⟨gs.length, g, List.getElem?_concat_length, hwhole ▸ haccepts, ?_⟩
      intro j g' hj hg'
      rcases getElem?_concat_iff.mp hg' with hg' | ⟨rfl, -⟩
      · exact absurd (hlt hg') (Nat.lt_asymm hj)
      · exact absurd hj (Nat.lt_irrefl _)
    · refine ⟨k, g', getElem?_concat_iff.mpr (.inl hk), ?_, ?_⟩
      · rwa [htake k (Nat.le_of_lt (hlt hk))]
      · intro j g'' hj hg'' e'
        rcases getElem?_concat_iff.mp hg'' with hg'' | ⟨rfl, rfl⟩
        · rw [htake j (Nat.le_of_lt (hlt hg''))]
          exact hlater j g'' hj hg'' e'
        · rw [hwhole]
          exact hnone e'

/-- A name has the entry of the last registration of it that was accepted. -/
theorem get?_registered (h : ∀ g ∈ gs, g.IsArranged) :
    (registered gs).get? s = some e ↔ LastAccepted gs s e := by
  induction gs using List.reverseRecOn generalizing e with
  | nil =>
    refine iff_of_false nofun ?_
    rintro ⟨k, g, hk, -⟩
    cases hk
  | append_singleton gs g ih =>
    rw [List.forall_mem_append, List.forall_mem_singleton] at h
    rw [registered_concat, get?_after h.2, lastAccepted_concat, ih h.1]

theorem nodup_keys_registered (gs : List Registration) : (registered gs).entries.keys.Nodup := by
  induction gs using List.reverseRecOn with
  | nil => exact .nil
  | append_singleton gs g ih =>
    rw [registered_concat]
    exact nodup_keys_after ih g

/-- The stated parameters of whatever is registered stand in order. -/
theorem arranged_of_get?_registered (h : ∀ g ∈ gs, g.IsArranged)
    (he : (registered gs).get? s = some e) {ps : List Parameter}
    (hps : e.procedure.signature = .stated ps) : Arranged ps := by
  obtain ⟨k, g, hk, haccepts, -⟩ := (get?_registered h).mp he
  exact h g (List.mem_of_getElem? hk) _ ps haccepts.offered hps

end History

/-! ## Calls -/

section Calling

variable {r : Registry} {s : String} {e : Entry} {ps : List Parameter}

theorem length_given (e : Entry) (t : Traverse) (items : List Value) :
    (e.given t items).length = if e.needsTraverse then items.length + 1 else items.length := by
  rw [Entry.given]
  split <;> rfl

/-- What is checked before a run is the number of arguments that the procedure is given. -/
theorem arguments_of_none (hps : e.procedure.signature = .stated ps) {t : Traverse}
    {items : List Value} (h : Procedure.misfit? ps (e.given t items).length = none) :
    arguments s e (.row items) = .ok items := by
  rw [length_given] at h
  simp only [arguments, Value.items?, hps, h]

theorem arguments_of_some (hps : e.procedure.signature = .stated ps) {t : Traverse}
    {items : List Value} {why : Misfit}
    (h : Procedure.misfit? ps (e.given t items).length = some why) :
    arguments s e (.row items) = .error (.misfit s items.length why) := by
  rw [length_given] at h
  simp only [arguments, Value.items?, hps, h]

theorem find_text (h : r.get? s = some e) : r.find (.text s) = .ok (s, e) := by
  simp only [find, h]

theorem call_of_fits (hget : r.get? s = some e) (hps : e.procedure.signature = .stated ps)
    (harranged : Arranged ps) {t : Traverse} {items : List Value}
    (hfits : Fits ps (e.given t items).length) :
    r.call (.text s) (.row items) t = e.procedure.run (e.given t items) t := by
  have hnone := (Procedure.misfit?_eq_none harranged _).mpr hfits
  rw [call_eq_run (find_text hget) (arguments_of_none hps hnone)]
  rfl

theorem call_of_not_fits (hget : r.get? s = some e) (hps : e.procedure.signature = .stated ps)
    (harranged : Arranged ps) {t : Traverse} {items : List Value}
    (hfits : ¬Fits ps (e.given t items).length) :
    ∃ err, err.family = .arguments ∧ r.call (.text s) (.row items) t = (.error err, t) := by
  cases hmisfit : Procedure.misfit? ps (e.given t items).length with
  | none => exact absurd ((Procedure.misfit?_eq_none harranged _).mp hmisfit) hfits
  | some why =>
    refine ⟨.misfit s items.length why, rfl, ?_⟩
    rw [call, find_text hget]
    simp only [arguments_of_some hps hmisfit]

theorem find_of_absent {name : Value} (hkey : name.unkeyed? = none)
    (h : ∀ s, name = .text s → r.get? s = none) :
    r.find name = .error (name.blamedPlain .unknownProcedure) := by
  cases name with
  | text s => simp only [find, h s rfl]; rfl
  | _ => simp only [find, hkey]

theorem call_of_absent {name : Value} (hkey : name.unkeyed? = none)
    (h : ∀ s, name = .text s → r.get? s = none) (args : Value) (t : Traverse) :
    ∃ err, err.family = (if name.isOverlong then .value else .procedure) ∧
      r.call name args t = (.error err, t) := by
  refine ⟨name.blamedPlain .unknownProcedure, ?_, ?_⟩
  · unfold Value.blamedPlain
    split <;> rfl
  · rw [call, find_of_absent hkey h]

end Calling

/-! ## The registry and its calls -/

/-- What trying a registration comes to: it is accepted, and one name has one entry afterwards; or
it is refused over a value or its kind, and no name has another entry than before. -/
inductive Tried (r : Registry) (g : Registration) (r' : Registry) : Prop
  | accepted (s : String) (e : Entry) (haccepts : r.Accepts g s e)
    (hr : r.register g.name g.candidate g.needsTraverse g.replace = .ok (r', e))
    (hget : ∀ s', r'.get? s' = if s' = s then some e else r.get? s')
  | refused (err : Error) (hnot : ∀ s e, ¬r.Accepts g s e)
    (hr : r.register g.name g.candidate g.needsTraverse g.replace = .error err)
    (hfamily : err.family = .value ∨ err.family = .type) (hsame : r' = r)

/-- What a call by name comes to, where the parameters of what it finds are stated. A name that is
no text is under no entry, and is refused as unknown if it can be written. -/
structure Calls (r : Registry) (name : Value) (items : List Value) (t : Traverse) : Prop where
  runs : ∀ s e ps, name = .text s → r.get? s = some e → e.procedure.signature = .stated ps →
    Fits ps (e.given t items).length →
      r.call name (.row items) t = e.procedure.run (e.given t items) t
  misfits : ∀ s e ps, name = .text s → r.get? s = some e → e.procedure.signature = .stated ps →
    ¬Fits ps (e.given t items).length →
      ∃ err, err.family = .arguments ∧ r.call name (.row items) t = (.error err, t)
  unknown : (∀ s, name = .text s → r.get? s = none) →
    ∃ err, err.family = (if name.isOverlong then .value else .procedure) ∧
      r.call name (.row items) t = (.error err, t)

theorem tried_after (r : Registry) {g : Registration} (hg : g.IsArranged) :
    r.Tried g (r.after g) := by
  by_cases h : ∃ s e, r.Accepts g s e
  · obtain ⟨s, e, haccepts⟩ := h
    refine .accepted s e haccepts ?_ fun s' => ?_
    · exact (register_eq_ok hg).mpr ⟨s, haccepts, after_of_accepts hg haccepts⟩
    · rw [after_of_accepts hg haccepts]
      exact Table.get?_insert r.entries s s' e
  · have hnot : ∀ s e, ¬r.Accepts g s e := fun s e he => h ⟨s, e, he⟩
    obtain ⟨err, herr⟩ := register_of_not_accepts hg hnot
    exact .refused err hnot herr (family_of_register_eq_error herr) (after_of_not_accepts hg hnot)

/-- **A registry holds what was accepted last, and calls keep to it**, whatever registrations were
tried one after another. -/
theorem registered_spec (gs : List Registration) (h : ∀ g ∈ gs, g.IsArranged) :
    (∀ k g, gs[k]? = some g →
      (registered (gs.take k)).Tried g (registered (gs.take (k + 1)))) ∧
    (∀ s e, (registered gs).get? s = some e ↔ LastAccepted gs s e) ∧
    ((registered gs).names.Pairwise Text.Before ∧
      (∀ v, (registered gs).contains v = .ok true ↔ ∃ s ∈ (registered gs).names, v = .text s) ∧
      (registered gs).names.length = (registered gs).size) ∧
    ∀ name items t, name.unkeyed? = none → (registered gs).Calls name items t := by
  refine ⟨?_, ?_, ⟨?_, ?_, ?_⟩, ?_⟩
  · intro k g hk
    have hlast : gs.take (k + 1) = gs.take k ++ [g] := by
      rw [List.take_add_one, hk]
      rfl
    rw [hlast, registered_concat]
    exact tried_after _ (h g (List.mem_of_getElem? hk))
  · intro s e
    exact get?_registered h
  · exact pairwise_names (nodup_keys_registered gs)
  · intro v
    constructor
    · intro hv
      cases v with
      | text s => exact ⟨s, mem_names.mpr hv, rfl⟩
      | _ => simp only [contains] at hv; split at hv <;> cases hv
    · rintro ⟨s, hs, rfl⟩
      exact mem_names.mp hs
  · exact length_names
  · intro name items t hkey
    constructor
    · rintro s e ps rfl he hps hfits
      exact call_of_fits he hps (arranged_of_get?_registered h he hps) hfits
    · rintro s e ps rfl he hps hfits
      exact call_of_not_fits he hps (arranged_of_get?_registered h he hps) hfits
    · intro habsent
      exact call_of_absent hkey habsent (.row items) t

/-- A name that is refused while it is taken and replaced where that is allowed, a blank name, what
cannot be run, and a procedure that is handed the traverse and has no room for more. -/
theorem registered_spec_replaced :
    let t : Traverse := .start (.text "$")
    let pair : Procedure := ⟨.stated [⟨"a", .required⟩, ⟨"b", .optional⟩], fun items t =>
      (.ok (items.getD 1 (.ofInt 1)), t)⟩
    let count : Procedure := ⟨.stated [⟨"values", .rest⟩], fun items t =>
      (.ok (.ofInt items.length), t)⟩
    let gs : List Registration := [⟨.text "f", .procedure pair, false, false⟩,
      ⟨.text "f", .procedure clearDestinationPoints, true, false⟩,
      ⟨.text " ", .procedure count, false, true⟩, ⟨.text "g", .other "42", false, false⟩,
      ⟨.text "g", .procedure clearDestinationPoints, true, false⟩,
      ⟨.text "f", .procedure count, false, true⟩]
    LastAccepted gs "f" ⟨count, false⟩ ∧ (registered gs).names.length = 2 ∧
      (registered gs).call (.text "f") (.row [.nothing, .nothing]) t = (.ok (.ofInt 2), t) ∧
      (registered gs).call (.text "g") (.row []) t = (.ok .nothing, t.clearPoints) ∧
      (∃ err, err.family = .arguments ∧
        (registered gs).call (.text "g") (.row [.nothing]) t = (.error err, t)) := by
  intro t pair count gs
  have h : ∀ g ∈ gs, g.IsArranged := by
    intro g hg p ps hp hps
    simp only [gs, List.mem_cons, List.not_mem_nil, or_false] at hg
    rcases hg with rfl | rfl | rfl | rfl | rfl | rfl <;> cases hp <;> cases hps <;> decide
  obtain ⟨-, hget, ⟨-, -, hlength⟩, hcalls⟩ := registered_spec gs h
  refine ⟨(hget _ _).mp rfl, hlength.trans rfl, ?_, ?_, ?_⟩
  · have hfits : Fits [⟨"values", .rest⟩] 2 := by decide
    exact (hcalls _ _ t rfl).runs "f" ⟨count, false⟩ _ rfl rfl rfl hfits
  · have hfits : Fits [⟨"context", .required⟩] 1 := by decide
    exact (hcalls _ _ t rfl).runs "g" ⟨clearDestinationPoints, true⟩ _ rfl rfl rfl hfits
  · have hmore : ¬Fits [⟨"context", .required⟩] 2 := by decide
    exact (hcalls _ _ t rfl).misfits "g" ⟨clearDestinationPoints, true⟩ _ rfl rfl rfl hmore

end Registry

end MetesBounds
