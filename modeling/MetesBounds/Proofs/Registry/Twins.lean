import MetesBounds.Proofs.Registry.Standard
import MetesBounds.Proofs.Traverse.Twins

/-!
# `Registry/Twins` — procedures cannot tell twins apart

A procedure is found under a text, so under twins the same one is found, or none for the same
reason. What twins string together are as many arguments, and nothing that the standard procedures
do with them tells them apart.

Main statement: `Registry.akin_call`.
-/

set_option autoImplicit false

namespace MetesBounds.Registry

variable {units : UnitLibrary} {name name' args args' : Value}

theorem akin_find (r : Registry) (h : name.Twin name') : Akin Eq (r.find name) (r.find name') := by
  rcases h.kin with rfl | ⟨hc, hc', hlong⟩
  · exact .refl _
  · have hfind {v : Value} (hv : v.IsCompound) : r.find v =
        v.unkeyed?.elim (.error (v.blamedPlain .unknownProcedure)) (.error ∘ .unhashable) := by
      unfold find
      split
      · cases hv
      · cases v.unkeyed? <;> rfl
    rw [hfind hc, hfind hc', h.unkeyed]
    cases name'.unkeyed? with
    | none =>
      rw [Value.blamedPlain, Value.blamedPlain, hlong]
      refine .error ?_
      split <;> rfl
    | some kind => exact .error rfl

theorem family_notListed (e : Entry) (kind : String) : (notListed e kind).family = .type := by
  unfold notListed
  split
  · rfl
  · split <;> rfl

theorem akin_arguments (s : String) (e : Entry) (h : args.Twin args') :
    Akin (List.Forall₂ Value.Kin) (arguments s e args) (arguments s e args') := by
  have hitems := h.items
  unfold arguments
  generalize args.items? = vs?, args'.items? = ws? at hitems
  cases hitems with
  | none => exact .error ((family_notListed _ _).trans (family_notListed _ _).symm)
  | some hitems =>
    dsimp only
    split
    · exact .ok hitems
    · rw [hitems.length_eq]
      split
      · exact .error rfl
      · exact .ok hitems

/-! ## Running a procedure -/

variable {vs ws : List Value}

theorem kin_headD (h : List.Forall₂ Value.Kin vs ws) :
    (vs.headD .nothing).Kin (ws.headD .nothing) := by
  cases h with
  | nil => exact .refl _
  | cons h _ => exact h

theorem kin_getD_one (h : List.Forall₂ Value.Kin vs ws) :
    (vs.getD 1 .nothing).Kin (ws.getD 1 .nothing) := by
  cases h with
  | nil => exact .refl _
  | cons _ h =>
    cases h with
    | nil => exact .refl _
    | cons h _ => exact h

theorem akin_run {s : String} {e : Entry} (he : (standard units).get? s = some e)
    (h : List.Forall₂ Value.Kin vs ws) (t u : Traverse) :
    Akin Eq (run e vs t).1 (run e ws u).1 := by
  have hmem : (s, e) ∈ (standard units).entries.entries := Table.mem_of_find? he
  simp only [standard, List.mem_cons, Prod.mk.injEq, List.not_mem_nil, or_false] at hmem
  rcases hmem with ⟨-, rfl⟩ | ⟨-, rfl⟩ | ⟨-, rfl⟩ | ⟨-, rfl⟩ | ⟨-, rfl⟩ | ⟨-, rfl⟩
  · exact ((kin_headD h).bearing .double).bindEq fun _ => .refl _
  · exact ((kin_headD h).opposite .double).bindEq fun _ => .refl _
  · have hturned : Akin Eq (turned (vs.headD .nothing) (vs.getD 1 .nothing))
        (turned (ws.headD .nothing) (ws.getD 1 .nothing)) :=
      ((kin_headD h).read .double).bindEq fun _ => ((kin_getD_one h).read .double).bindEq fun _ =>
        .refl _
    exact hturned.bindEq fun _ => .refl _
  · exact ((kin_headD h).metres units (.text "foot")).bindEq fun _ => .refl _
  · exact .ok rfl
  · exact .ok rfl

/-- **A call of a standard procedure gives the same for twins**, or fails over the same kind of
thing. -/
theorem akin_call (hn : name.Twin name') (ha : args.Twin args') (t u : Traverse) :
    Akin Eq ((standard units).call name args t).1 ((standard units).call name' args' u).1 := by
  rcases (akin_find (standard units) hn).error_or_ok with
    ⟨_, _, hf, hf', hfamily⟩ | ⟨⟨s, e⟩, _, hf, hf', rfl⟩
  · rw [call, call, hf, hf']
    exact .error hfamily
  · rcases (akin_arguments s e ha).error_or_ok with
      ⟨_, _, ha, ha', hfamily⟩ | ⟨vs, ws, ha, ha', hkin⟩
    · rw [call, call, hf, hf']
      simp only [ha, ha']
      exact .error hfamily
    · rw [call_eq_run hf ha, call_eq_run hf' ha']
      exact akin_run (find_eq_ok hf).2 hkin t u

/-- What is called is found under a text. -/
theorem name_of_call_eq_ok {r : Registry} {t : Traverse} {v : Value}
    (h : (r.call name args t).1 = .ok v) : ∃ s, name = .text s := by
  cases hf : r.find name with
  | error err =>
    rw [call, hf] at h
    cases h
  | ok found => exact ⟨found.1, (find_eq_ok hf).1⟩

end MetesBounds.Registry
