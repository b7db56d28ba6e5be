import MetesBounds.Proofs.Traverse.Fieldwise
import MetesBounds.Traverse

/-!
# `Traverse/Twins` — what traverses with the same symbols make of one call

Names stand for the same in traverses that have the same symbols, whatever else the traverses hold.
But a traverse may stand in its own symbols, and then a look-up shows it with all that it holds. So
two such traverses replace references by values that may look different. These are twins: nothing
can be calculated from them or found under them, and what they string together are such values
again. And calls that differ in their memos at most become calls of which no step can tell one from
the other but by its memo.

Main statement: `Traverse.akin_substitute`.
-/

set_option autoImplicit false

namespace MetesBounds

/-! ## Values that a step cannot tell apart -/

/-- Two values come to the same wherever one is calculated with, looked for, or taken apart. -/
structure Value.Twin (v w : Value) : Prop where
  kin : v.Kin w
  unkeyed : v.unkeyed? = w.unkeyed?
  items : Option.Rel (List.Forall₂ Value.Kin) v.items? w.items?

namespace Value

/-! ### A traverse shown in two ways -/

variable {f g : Option String → Option String}

theorem mapRunningItems_eq (items : List Value) :
    mapRunningItems f items = items.map (mapRunning f) := by
  induction items with
  | nil => rfl
  | cons v rest ih => rw [mapRunningItems, ih, List.map_cons]

theorem labels_mapRunningEntries (entries : List (String × Value)) :
    (mapRunningEntries f entries).map Prod.fst = entries.map Prod.fst := by
  induction entries with
  | nil => rfl
  | cons e rest ih => rw [mapRunningEntries, List.map_cons, List.map_cons, ih]

mutual

/-- How a traverse is shown does not decide what can be kept under a value. -/
theorem unkeyed?_mapRunning : ∀ v : Value, (mapRunning f v).unkeyed? = v.unkeyed?
  | nothing | number _ | text _ | reference _ | point _ | labelled _ | running _ => rfl
  | row items => unkeyedAmong?_mapRunningItems items

theorem unkeyedAmong?_mapRunningItems :
    ∀ items : List Value, unkeyedAmong? (mapRunningItems f items) = unkeyedAmong? items
  | [] => rfl
  | v :: rest => by
    rw [mapRunningItems, unkeyedAmong?, unkeyedAmong?, unkeyed?_mapRunning,
      unkeyedAmong?_mapRunningItems]

end

mutual

/-- Of how a traverse is shown only whether it can be decides whether a value can be written. -/
theorem isOverlong_mapRunning (h : ∀ traverse, (f traverse).isNone = (g traverse).isNone) :
    ∀ v : Value, (mapRunning f v).isOverlong = (mapRunning g v).isOverlong
  | nothing | number _ | text _ | reference _ | point _ => rfl
  | running traverse => h traverse
  | row items => isOverlongAmong_mapRunningItems h items
  | labelled entries => isOverlongEntry_mapRunningEntries h entries

theorem isOverlongAmong_mapRunningItems
    (h : ∀ traverse, (f traverse).isNone = (g traverse).isNone) : ∀ items : List Value,
    isOverlongAmong (mapRunningItems f items) = isOverlongAmong (mapRunningItems g items)
  | [] => rfl
  | v :: rest => by
    rw [mapRunningItems, mapRunningItems, isOverlongAmong, isOverlongAmong,
      isOverlong_mapRunning h, isOverlongAmong_mapRunningItems h]

theorem isOverlongEntry_mapRunningEntries
    (h : ∀ traverse, (f traverse).isNone = (g traverse).isNone) : ∀ entries : List (String × Value),
    isOverlongEntry (mapRunningEntries f entries) = isOverlongEntry (mapRunningEntries g entries)
  | [] => rfl
  | (_, v) :: rest => by
    rw [mapRunningEntries, mapRunningEntries, isOverlongEntry, isOverlongEntry,
      isOverlong_mapRunning h, isOverlongEntry_mapRunningEntries h]

end

end Value

namespace Traverse

@[simp] theorem isNone_written? (t : Traverse) : t.written?.isNone = t.isOverlong := by
  rw [written?]
  cases t.isOverlong <;> rfl

/-- How a traverse is shown begins in the same way for all. -/
theorem isCompound_written? (t : Traverse) : (Value.running t.written?).IsCompound := by
  have hopen : "TraverseContext(symbols=\x7b" = "TraverseContext(" ++ "symbols=\x7b" := rfl
  have hrest (s : String) :
      "TraverseContext(symbols=\x7b" ++ s = "TraverseContext(" ++ ("symbols=\x7b" ++ s) := by
    rw [hopen, String.append_assoc]
  rw [written?]
  cases t.isOverlong with
  | true => exact trivial
  | false =>
    rw [if_neg Bool.false_ne_true]
    unfold shown
    simp only [String.append_assoc]
    exact ⟨_, hrest _⟩

section Refresh

variable {t u : Traverse} (ho : t.isOverlong = u.isOverlong)

include ho

theorem isOverlong_refresh (v : Value) : (t.refresh v).isOverlong = (u.refresh v).isOverlong :=
  Value.isOverlong_mapRunning (fun _ => by rw [isNone_written?, isNone_written?, ho]) v

theorem kin_refresh (v : Value) : (t.refresh v).Kin (u.refresh v) := by
  have hlong := isOverlong_refresh ho v
  cases v with
  | row => exact .inr ⟨trivial, trivial, hlong⟩
  | labelled => exact .inr ⟨trivial, trivial, hlong⟩
  | running => exact .inr ⟨t.isCompound_written?, u.isCompound_written?, hlong⟩
  | _ => simp only [refresh, Value.mapRunning]; exact .refl _

end Refresh

end Traverse

namespace Value.Twin

variable {v w : Value}

theorem refl (v : Value) : v.Twin v := by
  refine ⟨.refl v, rfl, ?_⟩
  cases v.items? with
  | none => exact .none
  | some items => exact .some (List.forall₂_same.mpr fun v _ => .refl v)

/-- A value shown by two traverses, both of which can be written or neither. -/
theorem refresh {t u : Traverse} (ho : t.isOverlong = u.isOverlong) (v : Value) :
    (t.refresh v).Twin (u.refresh v) := by
  refine ⟨Traverse.kin_refresh ho v, ?_, ?_⟩
  · rw [Traverse.refresh, Traverse.refresh, unkeyed?_mapRunning, unkeyed?_mapRunning]
  · cases v with
    | row items =>
      change Option.Rel _ (some (mapRunningItems _ items)) (some (mapRunningItems _ items))
      rw [mapRunningItems_eq, mapRunningItems_eq]
      refine .some ?_
      rw [List.forall₂_map_left_iff, List.forall₂_map_right_iff]
      exact List.forall₂_same.mpr fun v _ => Traverse.kin_refresh ho v
    | labelled entries =>
      have hlabels (f : Option String → Option String) :
          items? (labelled (mapRunningEntries f entries)) =
          some ((entries.map Prod.fst).map text) := by
        rw [items?, ← labels_mapRunningEntries (f := f), List.map_map]
        rfl
      change Option.Rel _ (items? (labelled (mapRunningEntries _ entries)))
        (items? (labelled (mapRunningEntries _ entries)))
      rw [hlabels, hlabels]
      exact .some (List.forall₂_same.mpr fun v _ => .refl v)
    | running => exact .none
    | _ => simp only [Traverse.refresh, mapRunning]; exact (refl _).items

/-- Rows of twins. -/
theorem row {vs ws : List Value} (h : List.Forall₂ Twin vs ws) :
    (Value.row vs).Twin (.row ws) := by
  have hlong : isOverlongAmong vs = isOverlongAmong ws := by
    induction h with
    | nil => rfl
    | cons h _ ih => rw [isOverlongAmong, isOverlongAmong, h.kin.isOverlong_eq, ih]
  refine ⟨.inr ⟨trivial, trivial, hlong⟩, ?_, .some (h.imp fun _ _ h => h.kin)⟩
  change unkeyedAmong? vs = unkeyedAmong? ws
  clear hlong
  induction h with
  | nil => rfl
  | cons h _ ih => rw [unkeyedAmong?, unkeyedAmong?, h.unkeyed, ih]

end Value.Twin

/-! ## Calls that differ in their memos at most -/

/-- Two memos are texts. -/
def Value.BothText (v w : Value) : Prop := (∃ s, v = .text s) ∧ ∃ s, w = .text s

/-- Two calls of one kind hold the same in every field but the memo, and there they may hold two
texts. -/
def Call.ButMemo : Call → Call → Prop :=
  Fieldwise fun f v w => v = w ∨ f = .memo ∧ v.BothText w

namespace Call.ButMemo

variable {c c' : Call}

theorem refl (c : Call) : c.ButMemo c := Fieldwise.refl (fun _ _ => .inl rfl) c

/-- Both can be written, or neither can. -/
theorem isOverlong_eq (h : c.ButMemo c') : c.isOverlong = c'.isOverlong := by
  refine Fieldwise.isOverlong_eq h fun f v w hvw => ?_
  rcases hvw with rfl | ⟨-, ⟨_, rfl⟩, _, rfl⟩
  · rfl
  · rfl

/-- Both have a label, or neither has one. -/
theorem akin_label (h : c.ButMemo c') : Akin (fun _ _ => True) c.label c'.label := by
  rw [label, label, h.kind]
  refine akin_labelWith ?_
  rcases h.memo with hm | ⟨-, ⟨_, hm⟩, _, hm'⟩
  · rw [hm]
  · rw [hm, hm']
    rfl

end Call.ButMemo

/-- Two values of a field are twins, or two texts in a memo. -/
def Field.Twins (f : Field) (v w : Value) : Prop := v.Twin w ∨ f = .memo ∧ v.BothText w

theorem Field.Twins.twin {f : Field} {v w : Value} (h : f.Twins v w) (hf : f ≠ .memo) : v.Twin w :=
  h.resolve_right fun h => hf h.1

/-- Two calls of one kind hold twins in every field but the memo, and there they may hold two
texts. -/
def Call.Twins : Call → Call → Prop := Fieldwise Field.Twins

/-- Both have a label, or neither has one. -/
theorem Field.Twins.isOk_labelWith {v w : Value} (h : Field.memo.Twins v w) (k : Kind) :
    (Call.labelWith k v).isOk = (Call.labelWith k w).isOk := by
  have hnone : ∀ v : Value, v.IsCompound → (Call.labelWith k v).isOk = false := by
    intro v hv
    cases v with
    | text => cases hv
    | _ => rfl
  rcases h with ⟨rfl | ⟨hv, hw, -⟩, -, -⟩ | ⟨-, ⟨_, rfl⟩, _, rfl⟩
  · rfl
  · rw [hnone v hv, hnone w hw]
  · rfl

namespace Traverse

variable {t u : Traverse} (hm : t.marker = u.marker) (hs : t.symbols = u.symbols)
  (ho : t.isOverlong = u.isOverlong)

include hm hs ho

theorem akin_resolve (v : Value) : Akin Value.Twin (t.resolve v) (u.resolve v) := by
  rw [resolve, resolve, hm]
  cases v.marked u.marker with
  | error err => exact .error rfl
  | ok w =>
    cases w with
    | reference name =>
      change Akin Value.Twin (t.lookup name) (u.lookup name)
      rw [lookup, lookup, hs]
      cases u.symbols.get? (.named name) with
      | none => exact .error rfl
      | some v => exact .ok (.refresh ho v)
    | _ => exact .ok (.refl _)

theorem akin_resolveField (f : Field) (v : Value) :
    Akin Value.Twin (t.resolveField f v) (u.resolveField f v) := by
  cases v with
  | row items =>
    have hitems : Akin (List.Forall₂ Value.Twin) (items.mapM t.resolve) (items.mapM u.resolve) := by
      refine Akin.mapM (R := Eq) (fun v w h => h ▸ akin_resolve hm hs ho v) ?_
      exact List.forall₂_same.mpr fun _ _ => rfl
    exact hitems.bind fun _ _ h => .ok (.row h)
  | _ => exact .ite (.ok (.refl _)) (akin_resolve hm hs ho _)

/-- **Traverses with the same symbols make calls that no step can tell apart** of calls that differ
in their memos at most, if both can be written or neither. -/
theorem akin_substitute {c c' : Call} (h : c.ButMemo c') :
    Akin Call.Twins (t.substitute c) (u.substitute c') := by
  refine Call.Fieldwise.mapFields h fun field v w hvw => ?_
  rcases hvw with rfl | ⟨rfl, ⟨s, rfl⟩, s', rfl⟩
  · exact (akin_resolveField hm hs ho field v).mono fun _ _ h => .inl h
  · exact .ok (.inr ⟨rfl, ⟨s, rfl⟩, s', rfl⟩)

end Traverse

end MetesBounds
