import MetesBounds.Fingerprint
import MetesBounds.Proofs.Calculation.Worth
import MetesBounds.Proofs.Json.Reading
import MetesBounds.Proofs.Registry.Names

/-!
# `Json/Canonical` — what identifies a configuration

A configuration is identified by a digest of its canonical text, in which labels are put in order at
every depth. So the text does not change with the order in which a configuration was put together.
Nothing else is lost in it: from the text the document can be read off, and from the document the
configuration, up to the order of labels. Doubles count as the same where they are written the same,
as all that are no numbers are.

Main statement: `Value.canonical_eq_iff`.
-/

set_option autoImplicit false

namespace MetesBounds

/-! ## Numbers -/

/-- Numbers of one kind that are written the same. -/
inductive Number.LooksLike : Number → Number → Prop
  | truth (b : Bool) : LooksLike (truth b) (truth b)
  | whole (n : ℤ) : LooksLike (whole n) (whole n)
  | real {x y : Float} (h : (real x).text = (real y).text) : LooksLike (real x) (real y)

namespace Json

/-- The names of what is not finite, in documents and elsewhere. -/
def infiniteNames : List (String × String) :=
  [("NaN", "nan"), ("Infinity", "inf"), ("-Infinity", "-inf")]

/-- A double in a document. -/
def writeReal (x : Float) : List Char :=
  if x.isNaN then "NaN".toList
  else if x.isFinite then (Number.real x).text.toList
  else (if x < 0.0 then "-Infinity" else "Infinity").toList

theorem ofNumber_real (x : Float) : ofNumber (.real x) = number (writeReal x) := by
  rw [ofNumber, writeReal]
  split_ifs <;> rfl

/-- What is not finite has its names, and what is finite is written as it is elsewhere. -/
theorem writeReal_cases (x : Float) :
    (∃ p ∈ infiniteNames, writeReal x = p.1.toList ∧ (Number.real x).text.toList = p.2.toList) ∨
      writeReal x = (Number.real x).text.toList ∧ IsFigured (writeReal x) ∧
        Decimal.IsPointed (writeReal x) := by
  have hcases := Decimal.shortestText_cases Number.layout x
  have hofFloat : Binary64.ofFloat x = Binary64.ofUnpacked x.toModel.unpack :=
    (Binary64.unpack_spec x.toModel).1
  have hnan : x.isNaN = x.toModel.unpack.isNaN := rfl
  have hfinite : x.isFinite = x.toModel.unpack.isFinite := rfl
  have hless : x < 0.0 ↔
      decide ((x.toModel.unpack.compare (0.0 : Float).toModel.unpack == some .lt) = true) = true :=
    Iff.rfl
  have hzero : (0.0 : Float).toModel.unpack = .zero .positive := rfl
  have htext : (Number.real x).text = Decimal.shortestText Number.layout x := rfl
  rw [hzero] at hless
  rw [hofFloat] at hcases
  rw [writeReal, htext, hnan, hfinite]
  generalize x.toModel.unpack = u at hcases hless
  cases u with
  | notANumber => exact .inl ⟨("NaN", "nan"), by decide, rfl, hcases⟩
  | infinity s =>
    cases s with
    | negative =>
      have hbelow : x < 0.0 := hless.mpr rfl
      rw [if_pos hbelow]
      exact .inl ⟨("-Infinity", "-inf"), by decide, rfl, hcases⟩
    | positive =>
      have habove : ¬x < 0.0 := mt hless.mp (by decide)
      rw [if_neg habove]
      exact .inl ⟨("Infinity", "inf"), by decide, rfl, hcases⟩
  | zero s => exact .inr ⟨rfl, hcases⟩
  | finite s m e hm => exact .inr ⟨rfl, hcases⟩

/-- No name of what is not finite could be a finite number. -/
theorem not_isFigured_name {p : String × String} (h : p ∈ infiniteNames) :
    ¬IsFigured p.1.toList ∧ ¬IsFigured p.2.toList := by
  simp only [infiniteNames, List.mem_cons, List.not_mem_nil, or_false] at h
  have hnot {c : Char} {cs : List Char} (hc : c ∈ cs) (hfigure : isFigure c = false) :
      ¬IsFigured cs := fun hcs => by
    rw [hcs.chars c hc] at hfigure
    cases hfigure
  rcases h with rfl | rfl | rfl
  · exact ⟨hnot (c := 'a') (by decide) (by decide), hnot (c := 'a') (by decide) (by decide)⟩
  · exact ⟨hnot (c := 'n') (by decide) (by decide), hnot (c := 'n') (by decide) (by decide)⟩
  · exact ⟨hnot (c := 'n') (by decide) (by decide), hnot (c := 'n') (by decide) (by decide)⟩

/-- Doubles are written the same in documents just where they are elsewhere. -/
theorem writeReal_eq_iff (x y : Float) :
    writeReal x = writeReal y ↔ (Number.real x).text = (Number.real y).text := by
  rw [← String.toList_inj]
  have hnames : ∀ p ∈ infiniteNames, ∀ q ∈ infiniteNames,
      p.1.toList = q.1.toList ↔ p.2.toList = q.2.toList := by decide
  rcases writeReal_cases x with ⟨p, hp, hx, hx'⟩ | ⟨hx, hfigured, -⟩ <;>
    rcases writeReal_cases y with ⟨q, hq, hy, hy'⟩ | ⟨hy, hfigured', -⟩
  · rw [hx, hx', hy, hy']
    exact hnames p hp q hq
  · rw [hx, hx', ← hy]
    exact iff_of_false (fun h => (not_isFigured_name hp).1 (h ▸ hfigured'))
      fun h => (not_isFigured_name hp).2 (h ▸ hfigured')
  · rw [hy, hy', ← hx]
    exact iff_of_false (fun h => (not_isFigured_name hq).1 (h ▸ hfigured))
      fun h => (not_isFigured_name hq).2 (h ▸ hfigured)
  · rw [hx, hy]

/-- A whole number is never written as a double is. -/
theorem whole_ne_writeReal (n : ℤ) (x : Float) : (toString n).toList ≠ writeReal x := by
  obtain ⟨hfigured, hpointed⟩ := Number.text_whole_chars n
  change IsFigured (toString n).toList at hfigured
  intro h
  rcases writeReal_cases x with ⟨p, hp, hx, -⟩ | ⟨-, -, hx⟩
  · exact (not_isFigured_name hp).1 (hx ▸ h ▸ hfigured)
  · exact hpointed (h.symm ▸ hx)

/-- Numbers are the same document just where they look alike. -/
theorem ofNumber_eq_iff (m n : Number) : ofNumber m = ofNumber n ↔ m.LooksLike n := by
  refine ⟨fun h => ?_, fun h => ?_⟩
  · cases m with
    | truth b =>
      cases n with
      | truth b' =>
        cases h
        exact .truth b
      | whole => cases h
      | real y =>
        rw [ofNumber_real] at h
        cases h
    | whole k =>
      cases n with
      | truth => cases h
      | whole k' =>
        obtain rfl : k = k' :=
          Int.repr_inj.mp (String.toList_inj.mp (Json.number.inj h))
        exact .whole k
      | real y =>
        rw [ofNumber_real] at h
        exact absurd (Json.number.inj h) (whole_ne_writeReal k y)
    | real x =>
      rw [ofNumber_real] at h
      cases n with
      | truth => cases h
      | whole k => exact absurd (Json.number.inj h).symm (whole_ne_writeReal k x)
      | real y =>
        rw [ofNumber_real] at h
        exact .real ((writeReal_eq_iff x y).mp (Json.number.inj h))
  · cases h with
    | truth | whole => rfl
    | real h => rw [ofNumber_real, ofNumber_real, (writeReal_eq_iff _ _).mpr h]

theorem isNumberText_of_isFigured {cs : List Char} (h : IsFigured cs) : IsNumberText cs where
  written := h.isWritten
  head c hc := by
    have hfigure := h.chars c (List.mem_of_mem_head? hc)
    simp only [List.mem_cons, List.not_mem_nil, or_false, not_or]
    refine ⟨?_, ?_, ?_⟩ <;> rintro rfl <;> exact absurd hfigure (by decide)

theorem isNumberText_cons {c : Char} {cs : List Char} (h : ((c :: cs).all isNumeral) = true)
    (hc : c ∉ ['n', 't', 'f']) : IsNumberText (c :: cs) where
  written := .of_all h
  head _ hd := Option.some_inj.mp hd ▸ hc

theorem isPlain_ofNumber (n : Number) : IsPlain (ofNumber n) := by
  cases n with
  | truth b => exact .truth b
  | whole k => exact .number (isNumberText_of_isFigured (Number.text_whole_chars k).1)
  | real x =>
    rw [ofNumber_real]
    refine .number ?_
    rcases writeReal_cases x with ⟨p, hp, hx, -⟩ | ⟨-, hx, -⟩
    · rw [hx]
      simp only [infiniteNames, List.mem_cons, List.not_mem_nil, or_false] at hp
      rcases hp with rfl | rfl | rfl
      · exact isNumberText_cons (c := 'N') (by decide) (by decide)
      · exact isNumberText_cons (c := 'I') (by decide) (by decide)
      · exact isNumberText_cons (c := '-') (by decide) (by decide)
    · exact isNumberText_of_isFigured hx

end Json

/-! ## The order of labels -/

namespace Text

theorem isAtMost_antisymm {s t : String} (hst : isAtMost s t = true) (hts : isAtMost t s = true) :
    s = t := by
  by_contra hne
  exact isAtMost_iff.mp hts (before_of_isAtMost hst hne)

end Text

namespace Json

section Sorted

variable {es fs : List (List Char × Json)}

theorem sortedByName_perm (es : List (List Char × Json)) : (sortedByName es).Perm es :=
  List.mergeSort_perm _ _

/-- The order of names, as texts. -/
theorem isAtMostCodes_eq (cs ds : List Char) :
    Text.isAtMostCodes (Text.codesOf cs) (Text.codesOf ds) =
      Text.isAtMost (String.ofList cs) (String.ofList ds) := by
  rw [Text.isAtMost, Text.codes, Text.codes, String.toList_ofList, String.toList_ofList]

/-- Whether an entry may stand before another. -/
def isInOrder (a b : List Char × Json) : Bool :=
  Text.isAtMost (String.ofList a.1) (String.ofList b.1)

theorem pairwise_sortedByName (es : List (List Char × Json)) :
    (sortedByName es).Pairwise fun a b => isInOrder a b = true := by
  have hsorted : sortedByName es = es.mergeSort isInOrder := by
    simp only [sortedByName, isAtMostCodes_eq]
    rfl
  have htrans (a b c : List Char × Json) (hab : isInOrder a b = true) (hbc : isInOrder b c = true) :
      isInOrder a c = true := Text.isAtMost_trans _ _ _ hab hbc
  have htotal (a b : List Char × Json) : (isInOrder a b || isInOrder b a) = true :=
    Text.isAtMost_total _ _
  rw [hsorted]
  exact List.pairwise_mergeSort htrans htotal es

/-- Entries under different names come in one order only. -/
theorem sortedByName_eq_iff (hdistinct : (es.map Prod.fst).Nodup) :
    sortedByName es = sortedByName fs ↔ es.Perm fs := by
  constructor
  · intro h
    have hfs := sortedByName_perm fs
    rw [← h] at hfs
    exact (sortedByName_perm es).symm.trans hfs
  · intro h
    have hperm := (sortedByName_perm es).trans (h.trans (sortedByName_perm fs).symm)
    refine hperm.eq_of_pairwise (fun a b ha hb hab hba => ?_) (pairwise_sortedByName es)
      (pairwise_sortedByName fs)
    have hnames : a.1 = b.1 := String.ofList_injective (Text.isAtMost_antisymm hab hba)
    exact List.inj_on_of_nodup_map hdistinct ((sortedByName_perm es).mem_iff.mp ha)
      (h.mem_iff.mpr ((sortedByName_perm fs).mem_iff.mp hb)) hnames

end Sorted

end Json

/-! ## Configurations -/

namespace Value

/-- A configuration: texts of characters, truth values, nothing, numbers, and rows and labelled
values of these to any depth. Labels are texts of characters, and no label is given twice. -/
inductive IsConfiguration : Value → Prop
  | nothing : IsConfiguration nothing
  | number (n : Number) : IsConfiguration (number n)
  | text {s : String} (h : Json.IsScalar s.toList) : IsConfiguration (text s)
  | row {items : List Value} (h : ∀ v ∈ items, IsConfiguration v) : IsConfiguration (row items)
  | labelled {entries : List (String × Value)} (distinct : (entries.map Prod.fst).Nodup)
    (labels : ∀ e ∈ entries, Json.IsScalar e.1.toList)
    (members : ∀ e ∈ entries, IsConfiguration e.2) : IsConfiguration (labelled entries)

/-- Values that differ in nothing but the order of labels, at any depth. -/
inductive Reordered : Value → Value → Prop
  | nothing : Reordered nothing nothing
  | number {m n : Number} (h : m.LooksLike n) : Reordered (number m) (number n)
  | text (s : String) : Reordered (text s) (text s)
  | row {items items' : List Value} (h : List.Forall₂ Reordered items items') :
    Reordered (row items) (row items')
  | labelled {es es' fs : List (String × Value)} (order : es.Perm es')
    (labels : es'.map Prod.fst = fs.map Prod.fst)
    (members : List.Forall₂ Reordered (es'.map Prod.snd) (fs.map Prod.snd)) :
    Reordered (labelled es) (labelled fs)

/-- An entry of a document. -/
def toJsonEntry (e : String × Value) : List Char × Json := (e.1.toList, e.2.toJson)

theorem toJsonItems_eq (items : List Value) : toJsonItems items = items.map toJson := by
  induction items with
  | nil => rfl
  | cons v rest ih => rw [toJsonItems, ih, List.map_cons]

theorem toJsonEntries_eq (entries : List (String × Value)) :
    toJsonEntries entries = entries.map toJsonEntry := by
  induction entries with
  | nil => rfl
  | cons e rest ih => rw [toJsonEntries, ih, List.map_cons, toJsonEntry]

section Configurations

variable {v w : Value}

theorem IsConfiguration.isPlain (h : v.IsConfiguration) : v.toJson.IsPlain := by
  induction h with
  | nothing => exact .null
  | number n => exact Json.isPlain_ofNumber n
  | text h => exact .text h
  | row h ih =>
    rw [toJson, toJsonItems_eq]
    exact .array (List.forall_mem_map.mpr ih)
  | @labelled entries distinct labels members ih =>
    rw [toJson, toJsonEntries_eq]
    have hmem {f : List Char × Json} (hf : f ∈ Json.sortedByName (entries.map toJsonEntry)) :
        ∃ e ∈ entries, toJsonEntry e = f :=
      List.mem_map.mp ((Json.sortedByName_perm _).mem_iff.mp hf)
    refine .object (fun f hf => ?_) fun f hf => ?_
    · obtain ⟨e, he, rfl⟩ := hmem hf
      exact labels e he
    · obtain ⟨e, he, rfl⟩ := hmem hf
      exact ih e he

/-! ### Kinds -/

/-- The kinds of values in a configuration, as documents tell them. -/
def family : Value → Nat
  | nothing => 0
  | number _ => 1
  | row _ => 2
  | labelled _ => 3
  | text _ | reference _ | point _ | running _ => 4

theorem family_eq_of_toJson (h : v.toJson = w.toJson) : v.family = w.family := by
  have hfamily (v : Value) : v.family = match v.toJson with
      | .null => 0
      | .truth _ | .number _ => 1
      | .array _ => 2
      | .object _ => 3
      | .text _ => 4 := by
    cases v with
    | number n =>
      cases n with
      | truth | whole => rfl
      | real x => rw [toJson, Json.ofNumber_real, family]
    | _ => rfl
  rw [hfamily v, hfamily w, h]

theorem iff_of_family_ne (h : v.family ≠ w.family) : v.toJson = w.toJson ↔ v.Reordered w := by
  refine iff_of_false (mt family_eq_of_toJson h) fun hreordered => h ?_
  cases hreordered <;> rfl

/-! ### Rows and labelled values -/

/-- Rows have the same images just where they are related one by one. -/
theorem map_eq_map_iff {α β : Type} {f : α → β} {R : α → α → Prop} {xs ys : List α}
    (h : ∀ x ∈ xs, ∀ y ∈ ys, f x = f y ↔ R x y) :
    xs.map f = ys.map f ↔ List.Forall₂ R xs ys := by
  induction xs generalizing ys with
  | nil => simp [eq_comm]
  | cons x xs ih =>
    cases ys with
    | nil => simp
    | cons y ys =>
      have hx := h x List.mem_cons_self y List.mem_cons_self
      have hrest := ih fun a ha b hb =>
        h a (List.mem_cons_of_mem x ha) b (List.mem_cons_of_mem y hb)
      rw [List.map_cons, List.map_cons, List.cons.injEq, List.forall₂_cons, hx, hrest]

/-- A row whose images are those of another in some order can be put in that order itself. -/
theorem map_perm_map_iff {α β : Type} {f : α → β} {xs ys : List α} :
    (xs.map f).Perm (ys.map f) ↔ ∃ xs', xs.Perm xs' ∧ xs'.map f = ys.map f := by
  constructor
  · intro h
    have hself : List.Forall₂ (fun b a => b = f a) (xs.map f) xs :=
      List.forall₂_map_left_iff.mpr (List.forall₂_same.mpr fun _ _ => rfl)
    obtain ⟨xs', himages, hperm⟩ := List.perm_comp_forall₂ h.symm hself
    have himages : List.Forall₂ Eq (ys.map f) (xs'.map f) := List.forall₂_map_right_iff.mpr himages
    rw [List.forall₂_eq_eq_eq] at himages
    exact ⟨xs', hperm.symm, himages.symm⟩
  · rintro ⟨xs', hperm, himages⟩
    exact himages ▸ hperm.map f

theorem map_toJsonEntry_eq_iff {es fs : List (String × Value)} :
    es.map toJsonEntry = fs.map toJsonEntry ↔ es.map Prod.fst = fs.map Prod.fst ∧
      (es.map Prod.snd).map toJson = (fs.map Prod.snd).map toJson := by
  induction es generalizing fs with
  | nil => cases fs <;> simp
  | cons e es ih =>
    cases fs with
    | nil => simp
    | cons f fs =>
      simp only [List.map_cons, List.cons.injEq, ih, toJsonEntry, Prod.mk.injEq, String.toList_inj]
      tauto

/-- **Configurations are the same document just where they differ in the order of labels alone.** -/
theorem IsConfiguration.toJson_eq_iff (hv : v.IsConfiguration) (hw : w.IsConfiguration) :
    v.toJson = w.toJson ↔ v.Reordered w := by
  induction hv generalizing w with
  | nothing =>
    cases hw with
    | nothing => exact iff_of_true rfl .nothing
    | _ => exact iff_of_family_ne (by simp [family])
  | number m =>
    cases hw with
    | number n =>
      refine (Json.ofNumber_eq_iff m n).trans ⟨.number, fun hsame => ?_⟩
      cases hsame with
      | number h => exact h
    | _ => exact iff_of_family_ne (by simp [family])
  | text h =>
    cases hw with
    | text h' =>
      refine ⟨fun hsame => ?_, fun hsame => ?_⟩
      · obtain rfl := String.toList_inj.mp (Json.text.inj hsame)
        exact .text _
      · cases hsame
        rfl
    | _ => exact iff_of_family_ne (by simp [family])
  | row h ih =>
    cases hw with
    | row h' =>
      have hitems := map_eq_map_iff fun v hv w hw => ih v hv (h' w hw)
      rw [toJson, toJson, toJsonItems_eq, toJsonItems_eq, Json.array.injEq, hitems]
      refine ⟨.row, fun hsame => ?_⟩
      cases hsame with
      | row h => exact h
    | _ => exact iff_of_family_ne (by simp [family])
  | @labelled es distinct labels members ih =>
    cases hw with
    | @labelled fs distinct' labels' members' =>
      have hdistinct : ((es.map toJsonEntry).map Prod.fst).Nodup := by
        have hnames : (es.map toJsonEntry).map Prod.fst = (es.map Prod.fst).map String.toList := by
          rw [List.map_map, List.map_map]
          rfl
        rw [hnames]
        exact distinct.map fun _ _ => String.toList_injective
      rw [toJson, toJson, toJsonEntries_eq, toJsonEntries_eq, Json.object.injEq,
        Json.sortedByName_eq_iff hdistinct, map_perm_map_iff]
      -- the entries that are put in order are the same ones
      have hmembers {es' : List (String × Value)} (hperm : es.Perm es') :
          (es'.map Prod.snd).map toJson = (fs.map Prod.snd).map toJson ↔
            List.Forall₂ Reordered (es'.map Prod.snd) (fs.map Prod.snd) := by
        refine map_eq_map_iff fun v hv w hw => ?_
        obtain ⟨e, he, rfl⟩ := List.mem_map.mp hv
        obtain ⟨f, hf, rfl⟩ := List.mem_map.mp hw
        exact ih e (hperm.mem_iff.mpr he) (members' f hf)
      constructor
      · rintro ⟨es', hperm, hentries⟩
        obtain ⟨hlabels, hvalues⟩ := map_toJsonEntry_eq_iff.mp hentries
        exact .labelled hperm hlabels ((hmembers hperm).mp hvalues)
      · intro hsame
        cases hsame with
        | labelled hperm hlabels hvalues =>
          exact ⟨_, hperm, map_toJsonEntry_eq_iff.mpr ⟨hlabels, (hmembers hperm).mpr hvalues⟩⟩
    | _ => exact iff_of_family_ne (by simp [family])

theorem Reordered.eq_text {s : String} (h : (Value.text s).Reordered w) : w = Value.text s := by
  cases h
  rfl

/-- What is found under a label is found under it in the other order too. -/
theorem Reordered.exists_member {es fs : List (String × Value)}
    (h : (Value.labelled es).Reordered (Value.labelled fs)) {e : String × Value} (he : e ∈ es) :
    ∃ f ∈ fs, e.1 = f.1 ∧ e.2.Reordered f.2 := by
  have hpaired {es fs : List (String × Value)} (hlabels : es.map Prod.fst = fs.map Prod.fst)
      (hmembers : List.Forall₂ Reordered (es.map Prod.snd) (fs.map Prod.snd)) (he : e ∈ es) :
      ∃ f ∈ fs, e.1 = f.1 ∧ e.2.Reordered f.2 := by
    induction es generalizing fs with
    | nil => cases he
    | cons e' es ih =>
      cases fs with
      | nil => cases hlabels
      | cons f fs =>
        obtain ⟨hlabel, hlabels⟩ := List.cons.inj hlabels
        obtain ⟨hmember, hmembers⟩ := List.forall₂_cons.mp hmembers
        rcases List.mem_cons.mp he with rfl | he
        · exact ⟨f, List.mem_cons_self, hlabel, hmember⟩
        · obtain ⟨g, hg, hfound⟩ := ih hlabels hmembers he
          exact ⟨g, List.mem_cons_of_mem f hg, hfound⟩
  cases h with
  | labelled order labels members => exact hpaired labels members (order.mem_iff.mp he)

/-! ### What can be written -/

theorem isOverlongAmong_eq (items : List Value) : isOverlongAmong items = items.any isOverlong := by
  induction items with
  | nil => rfl
  | cons v rest ih => rw [isOverlongAmong, ih, List.any_cons]

theorem isOverlongEntry_eq (entries : List (String × Value)) :
    isOverlongEntry entries = (entries.map Prod.snd).any isOverlong := by
  induction entries with
  | nil => rfl
  | cons e rest ih => rw [isOverlongEntry, ih, List.map_cons, List.any_cons]

/-- The order of labels does not decide whether a configuration can be written. -/
theorem IsConfiguration.isOverlong_eq (hv : v.IsConfiguration) (h : v.Reordered w) :
    v.isOverlong = w.isOverlong := by
  have hitems {vs ws : List Value} (hvs : ∀ v ∈ vs, ∀ {w : Value}, v.Reordered w →
      v.isOverlong = w.isOverlong) (h : List.Forall₂ Reordered vs ws) :
      vs.any isOverlong = ws.any isOverlong := by
    induction h with
    | nil => rfl
    | cons h _ ih =>
      rw [List.any_cons, List.any_cons, hvs _ List.mem_cons_self h,
        ih fun v hv => hvs v (List.mem_cons_of_mem _ hv)]
  induction hv generalizing w with
  | nothing =>
    cases h
    rfl
  | number =>
    cases h with
    | number h => cases h <;> rfl
  | text =>
    cases h
    rfl
  | row _ ih =>
    cases h with
    | row h => rw [isOverlong, isOverlong, isOverlongAmong_eq, isOverlongAmong_eq, hitems ih h]
  | labelled _ _ _ ih =>
    cases h with
    | labelled order labels members =>
      have hmembers := hitems (fun v hv => by
        obtain ⟨e, he, rfl⟩ := List.mem_map.mp hv
        exact ih e (order.mem_iff.mpr he)) members
      rw [isOverlong, isOverlong, isOverlongEntry_eq, isOverlongEntry_eq, ← hmembers]
      exact (order.map Prod.snd).any_eq

/-! ### Canonical texts -/

/-- The bytes whose digest identifies a configuration. -/
def digested (v : Value) : List UInt8 := v.canonical.map fun c => UInt8.ofNat c.toNat

theorem fingerprint_eq (v : Value) : fingerprint v =
    if v.isOverlong then .error .overlong
    else .ok (String.ofList ((hexOf (Digest.sha256 v.digested)).take 16)) := rfl

/-- A byte for each character of ASCII gives the characters back. -/
theorem map_ofNat_bytes {cs : List Char} (h : ∀ c ∈ cs, c.toNat < 128) :
    (cs.map fun c => UInt8.ofNat c.toNat).map (fun b => Char.ofNat b.toNat) = cs := by
  rw [List.map_map]
  refine (List.map_congr_left fun c hc => ?_).trans (List.map_id' cs)
  have hbyte : c.toNat % 2 ^ 8 = c.toNat := Nat.mod_eq_of_lt (by have := h c hc; omega)
  rw [Function.comp_apply, UInt8.toNat_ofNat', hbyte, Char.ofNat_toNat]

theorem IsConfiguration.canonical_of_digested (hv : v.IsConfiguration) (hw : w.IsConfiguration)
    (h : v.digested = w.digested) : v.canonical = w.canonical := by
  calc v.canonical = v.digested.map fun b => Char.ofNat b.toNat :=
        (map_ofNat_bytes hv.isPlain.isAscii).symm
    _ = w.digested.map fun b => Char.ofNat b.toNat := by rw [h]
    _ = w.canonical := map_ofNat_bytes hw.isPlain.isAscii

/-- **Configurations have the same canonical text just where they differ in the order of labels
alone**, at any depth. The bytes whose digest is taken are the same just then too, and so is what
identifies them. -/
theorem canonical_eq_iff (hv : v.IsConfiguration) (hw : w.IsConfiguration) :
    (v.canonical = w.canonical ↔ v.Reordered w) ∧ (v.digested = w.digested ↔ v.Reordered w) ∧
      (v.Reordered w → fingerprint v = fingerprint w) := by
  have hcanonical : v.canonical = w.canonical ↔ v.Reordered w := by
    rw [← hv.toJson_eq_iff hw]
    exact ⟨Json.compact_injective hv.isPlain hw.isPlain, congrArg Json.compact⟩
  have hdigested : v.digested = w.digested ↔ v.Reordered w := by
    rw [← hcanonical]
    exact ⟨hv.canonical_of_digested hw, fun h => by rw [digested, digested, h]⟩
  refine ⟨hcanonical, hdigested, fun h => ?_⟩
  rw [fingerprint_eq, fingerprint_eq, hdigested.mpr h, hv.isOverlong_eq h]

/-- Labels in another order leave the canonical text as it is, and an accent does not. -/
theorem canonical_eq_iff_accent :
    let base := labelled [("b", text "\x5cé\x22"), ("a", row [.ofInt 1, nothing])]
    let swapped := labelled [("a", row [.ofInt 1, nothing]), ("b", text "\x5cé\x22")]
    let other := labelled [("b", text "\x5ce\x22"), ("a", row [.ofInt 1, nothing])]
    base.canonical = swapped.canonical ∧ base.digested = swapped.digested ∧
      fingerprint base = fingerprint swapped ∧ base.canonical ≠ other.canonical := by
  intro base swapped other
  have hrow : IsConfiguration (row [.ofInt 1, nothing]) :=
    .row (List.forall_mem_cons.mpr ⟨.number _, List.forall_mem_singleton.mpr .nothing⟩)
  have hpair {x y : String × Value} (hne : x.1 ≠ y.1) (hx : Json.IsScalar x.1.toList)
      (hy : Json.IsScalar y.1.toList) (hx' : x.2.IsConfiguration) (hy' : y.2.IsConfiguration) :
      IsConfiguration (labelled [x, y]) :=
    .labelled (by simpa using hne) (List.forall_mem_cons.mpr ⟨hx, List.forall_mem_singleton.mpr hy⟩)
      (List.forall_mem_cons.mpr ⟨hx', List.forall_mem_singleton.mpr hy'⟩)
  have hbase : base.IsConfiguration :=
    hpair (by decide) (by decide) (by decide) (.text (by decide)) hrow
  have hswapped : swapped.IsConfiguration :=
    hpair (by decide) (by decide) (by decide) hrow (.text (by decide))
  have hother : other.IsConfiguration :=
    hpair (by decide) (by decide) (by decide) (.text (by decide)) hrow
  have hreordered : base.Reordered swapped :=
    .labelled (.swap _ _ []) rfl
      (.cons (.row (.cons (.number (.whole 1)) (.cons .nothing .nil))) (.cons (.text _) .nil))
  obtain ⟨hcanonical, hdigested, hfingerprint⟩ := canonical_eq_iff hbase hswapped
  refine ⟨hcanonical.mpr hreordered, hdigested.mpr hreordered, hfingerprint hreordered, fun h => ?_⟩
  obtain ⟨f, hf, hlabel, hmember⟩ :=
    ((canonical_eq_iff hbase hother).1.mp h).exists_member List.mem_cons_self
  rcases List.mem_cons.mp hf with rfl | hf
  · exact absurd (text.inj hmember.eq_text) (by decide)
  · rw [List.mem_singleton.mp hf] at hlabel
    exact absurd hlabel (by decide)

end Configurations

end Value

end MetesBounds
