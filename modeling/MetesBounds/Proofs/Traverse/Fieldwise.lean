import MetesBounds.Call
import MetesBounds.Proofs.Calculation.Akin

/-!
# `Traverse/Fieldwise` — two calls, compared field by field

Two runs side by side work on calls that are not the same but of one kind, and related in each of
their fields: the memos may differ, or the spellings of references, or what a reference stands for.
`Call.Fieldwise` says so for any relation on what a field holds. Whatever is done to the fields one
by one then leads to calls that are related in the same way.

Main statement: `Call.Fieldwise.mapFields`.
-/

set_option autoImplicit false

namespace MetesBounds

namespace Call

/-- Two calls of one kind that stand in a relation field by field. -/
inductive Fieldwise (R : Field → Value → Value → Prop) : Call → Call → Prop
  | point {c c' : PointCall} (latitude : R .latitude c.latitude c'.latitude)
    (longitude : R .longitude c.longitude c'.longitude) (memo : R .memo c.memo c'.memo) :
    Fieldwise R (.point c) (.point c')
  | line {c c' : LineCall} (bearing : R .bearing c.bearing c'.bearing)
    (distance : R .distance c.distance c'.distance)
    (direction : R .direction c.direction c'.direction) (memo : R .memo c.memo c'.memo) :
    Fieldwise R (.line c) (.line c')
  | curve {c c' : CurveCall} (distance : R .distance c.distance c'.distance)
    (direction : R .direction c.direction c'.direction) (radius : R .radius c.radius c'.radius)
    (delta : R .delta c.delta c'.delta) (turn : R .turnForCenter c.turn c'.turn)
    (memo : R .memo c.memo c'.memo) : Fieldwise R (.curve c) (.curve c')
  | procedure {c c' : ProcedureCall} (name : R .name c.name c'.name)
    (args : R .args c.args c'.args) (memo : R .memo c.memo c'.memo) :
    Fieldwise R (.procedure c) (.procedure c')
  | binding {c c' : BindingCall} (name : R .name c.name c'.name)
    (memo : R .memo c.memo c'.memo) : Fieldwise R (.binding c) (.binding c')

namespace Fieldwise

variable {R S : Field → Value → Value → Prop} {c c' : Call}

theorem refl (h : ∀ f v, R f v v) (c : Call) : Fieldwise R c c := by
  cases c with
  | point => exact .point (h _ _) (h _ _) (h _ _)
  | line => exact .line (h _ _) (h _ _) (h _ _) (h _ _)
  | curve => exact .curve (h _ _) (h _ _) (h _ _) (h _ _) (h _ _) (h _ _)
  | procedure => exact .procedure (h _ _) (h _ _) (h _ _)
  | binding => exact .binding (h _ _) (h _ _)

theorem kind (h : Fieldwise R c c') : c.kind = c'.kind := by
  cases h <;> rfl

theorem memo (h : Fieldwise R c c') : R .memo c.memo c'.memo := by
  cases h with
  | point _ _ hm => exact hm
  | line _ _ _ hm => exact hm
  | curve _ _ _ _ _ hm => exact hm
  | procedure _ _ hm => exact hm
  | binding _ hm => exact hm

/-- A relation on fields that says more says more of calls. -/
theorem mono (h : Fieldwise R c c') (hRS : ∀ f v w, R f v w → S f v w) : Fieldwise S c c' := by
  cases h with
  | point hlat hlon hm => exact .point (hRS _ _ _ hlat) (hRS _ _ _ hlon) (hRS _ _ _ hm)
  | line hb hd hdir hm =>
    exact .line (hRS _ _ _ hb) (hRS _ _ _ hd) (hRS _ _ _ hdir) (hRS _ _ _ hm)
  | curve hd hdir hr hdelta ht hm =>
    exact .curve (hRS _ _ _ hd) (hRS _ _ _ hdir) (hRS _ _ _ hr) (hRS _ _ _ hdelta)
      (hRS _ _ _ ht) (hRS _ _ _ hm)
  | procedure hn ha hm => exact .procedure (hRS _ _ _ hn) (hRS _ _ _ ha) (hRS _ _ _ hm)
  | binding hn hm => exact .binding (hRS _ _ _ hn) (hRS _ _ _ hm)

/-- **What is done to related fields leads to related calls**, or fails over the same kind of
thing. -/
theorem mapFields {f g : Field → Value → Except Error Value} (h : Fieldwise R c c')
    (hfg : ∀ field v w, R field v w → Akin (S field) (f field v) (g field w)) :
    Akin (Fieldwise S) (c.mapFields f) (c'.mapFields g) := by
  cases h with
  | point hlat hlon hm =>
    exact (hfg _ _ _ hlat).bind fun _ _ hlat => (hfg _ _ _ hlon).bind fun _ _ hlon =>
      (hfg _ _ _ hm).bind fun _ _ hm => .ok (.point hlat hlon hm)
  | line hb hd hdir hm =>
    exact (hfg _ _ _ hb).bind fun _ _ hb => (hfg _ _ _ hd).bind fun _ _ hd =>
      (hfg _ _ _ hdir).bind fun _ _ hdir => (hfg _ _ _ hm).bind fun _ _ hm =>
        .ok (.line hb hd hdir hm)
  | curve hd hdir hr hdelta ht hm =>
    exact (hfg _ _ _ hd).bind fun _ _ hd => (hfg _ _ _ hdir).bind fun _ _ hdir =>
      (hfg _ _ _ hr).bind fun _ _ hr => (hfg _ _ _ hdelta).bind fun _ _ hdelta =>
        (hfg _ _ _ ht).bind fun _ _ ht => (hfg _ _ _ hm).bind fun _ _ hm =>
          .ok (.curve hd hdir hr hdelta ht hm)
  | procedure hn ha hm =>
    exact (hfg _ _ _ hn).bind fun _ _ hn => (hfg _ _ _ ha).bind fun _ _ ha =>
      (hfg _ _ _ hm).bind fun _ _ hm => .ok (.procedure hn ha hm)
  | binding hn hm =>
    exact (hfg _ _ _ hn).bind fun _ _ hn => (hfg _ _ _ hm).bind fun _ _ hm =>
      .ok (.binding hn hm)

/-- A call that its fields have been made into holds in each of them what has come of it. -/
theorem of_mapFields {f : Field → Value → Except Error Value} (h : c.mapFields f = .ok c') :
    Fieldwise (fun field v w => f field v = .ok w) c c' := by
  cases c <;> simp only [Call.mapFields, bind_eq_ok, pure_eq_ok] at h
  case point => obtain ⟨_, hlat, _, hlon, _, hm, rfl⟩ := h; exact .point hlat hlon hm
  case line => obtain ⟨_, hb, _, hd, _, hdir, _, hm, rfl⟩ := h; exact .line hb hd hdir hm
  case curve =>
    obtain ⟨_, hd, _, hdir, _, hr, _, hdelta, _, ht, _, hm, rfl⟩ := h
    exact .curve hd hdir hr hdelta ht hm
  case procedure => obtain ⟨_, hn, _, ha, _, hm, rfl⟩ := h; exact .procedure hn ha hm
  case binding => obtain ⟨_, hn, _, hm, rfl⟩ := h; exact .binding hn hm

/-- Calls whose fields come to the same come to the same. -/
theorem mapFields_eq {f : Field → Value → Except Error Value}
    (h : Fieldwise (fun field v w => f field v = f field w) c c') :
    c.mapFields f = c'.mapFields f := by
  cases h with
  | point hlat hlon hm => simp only [Call.mapFields, hlat, hlon, hm]
  | line hb hd hdir hm => simp only [Call.mapFields, hb, hd, hdir, hm]
  | curve hd hdir hr hdelta ht hm => simp only [Call.mapFields, hd, hdir, hr, hdelta, ht, hm]
  | procedure hn ha hm => simp only [Call.mapFields, hn, ha, hm]
  | binding hn hm => simp only [Call.mapFields, hn, hm]

/-- Calls whose fields can be written or cannot, one like the other, can be written or cannot. -/
theorem isOverlong_eq (h : Fieldwise R c c')
    (hR : ∀ f v w, R f v w → v.isOverlong = w.isOverlong) : c.isOverlong = c'.isOverlong := by
  have hentries : List.Forall₂ (fun e e' => e.2.isOverlong = e'.2.isOverlong) c.entries
      c'.entries := by
    cases h with
    | point hlat hlon hm =>
      exact .cons (hR _ _ _ hlat) (.cons (hR _ _ _ hlon) (.cons (hR _ _ _ hm) .nil))
    | line hb hd hdir hm =>
      exact .cons (hR _ _ _ hb) (.cons (hR _ _ _ hd) (.cons (hR _ _ _ hdir)
        (.cons (hR _ _ _ hm) .nil)))
    | curve hd hdir hr hdelta ht hm =>
      exact .cons (hR _ _ _ hd) (.cons (hR _ _ _ hdir) (.cons (hR _ _ _ hr)
        (.cons (hR _ _ _ hdelta) (.cons (hR _ _ _ ht) (.cons (hR _ _ _ hm) .nil)))))
    | procedure hn ha hm =>
      exact .cons (hR _ _ _ hn) (.cons (hR _ _ _ ha) (.cons (hR _ _ _ hm) .nil))
    | binding hn hm => exact .cons (hR _ _ _ hn) (.cons (hR _ _ _ hm) .nil)
  rw [Call.isOverlong, Call.isOverlong]
  generalize c.entries = es, c'.entries = es' at hentries
  induction hentries with
  | nil => rfl
  | cons h _ ih => rw [List.any_cons, List.any_cons, h, ih]

end Fieldwise

end Call

/-! ## Lists -/

/-- What is paired with an item of a list. -/
theorem exists_of_forall₂ {α β : Type} {R : α → β → Prop} {as : List α} {bs : List β}
    (h : List.Forall₂ R as bs) {k : Nat} {a : α} (hk : as[k]? = some a) :
    ∃ b, bs[k]? = some b ∧ R a b := by
  obtain ⟨hlt, rfl⟩ := List.getElem?_eq_some_iff.mp hk
  have hlt' : k < bs.length := h.length_eq ▸ hlt
  exact ⟨bs.get ⟨k, hlt'⟩, List.getElem?_eq_getElem hlt', h.get hlt hlt'⟩

end MetesBounds
