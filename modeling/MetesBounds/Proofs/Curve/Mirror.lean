import MetesBounds.Curve
import MetesBounds.Proofs.Calculation.Exact
import MetesBounds.Proofs.Curve.Radius

/-!
# `Curve/Mirror` — curves to the left are curves to the right in a mirror

In a mirror that stands along a meridian every longitude changes its sign, and so does every
bearing, but for whole turns. What bends to the right then bends to the left, and a turn to the
center goes the other way; lengths and central angles stay what they are. So if the great circles
look the same in the mirror, a curve to the left is laid out where the mirror shows the curve to
the right, and there is none where there is none to the right.

Angles are reckoned with exactly here, since rounding would tell a bearing from its mirror image.

Main statement: `Curve.left_mirrors_right`.
-/

set_option autoImplicit false

namespace MetesBounds

/-! ## Two calculations side by side -/

/-- Two calculations come to related things, or both fail. -/
inductive Together {α β : Type} (R : α → β → Prop) : Except Error α → Except Error β → Prop
  | ok {a : α} {b : β} (h : R a b) : Together R (.ok a) (.ok b)
  | error {err err' : Error} : Together R (.error err) (.error err')

namespace Together

variable {α β γ δ : Type} {R : α → β → Prop} {S : γ → δ → Prop} {x : Except Error α}
  {y : Except Error β}

theorem bind {f : α → Except Error γ} {g : β → Except Error δ} (h : Together R x y)
    (hf : ∀ a b, R a b → Together S (f a) (g b)) : Together S (x >>= f) (y >>= g) := by
  cases h with
  | ok h => exact hf _ _ h
  | error => exact .error

/-- A step that both calculations take alike. -/
theorem bindSame {f : α → Except Error γ} {g : α → Except Error δ}
    (hf : ∀ a, Together S (f a) (g a)) : Together S (x >>= f) (x >>= g) := by
  cases x with
  | ok a => exact hf a
  | error err => exact .error

theorem map {f : α → γ} {g : β → δ} (h : Together R x y) (hf : ∀ a b, R a b → S (f a) (g b)) :
    Together S (f <$> x) (g <$> y) := by
  cases h with
  | ok h => exact .ok (hf _ _ h)
  | error => exact .error

theorem of_ok {a : α} (h : Together R (.ok a) y) : ∃ b, y = .ok b ∧ R a b := by
  cases h with
  | ok h => exact ⟨_, rfl, h⟩

theorem of_ne_ok (hx : ∀ a, x ≠ .ok a) (hy : ∀ b, y ≠ .ok b) : Together R x y := by
  cases x with
  | ok a => exact absurd rfl (hx a)
  | error err =>
    cases y with
    | ok b => exact absurd rfl (hy b)
    | error err' => exact .error

end Together

/-! ## In the mirror -/

/-- An angle and what the mirror shows of it: the opposite angle, but for whole turns. -/
def Opposed (x x' : ℚ) : Prop := x' ≡ -x [PMOD 360]

/-- A number and anything else in the mirror: a number is opposed. -/
def Value.mirror : Value → Value
  | .number n => .number n.opposite
  | v => v

/-- The point of opposite longitude. -/
def Point.mirror (p : Point) : Point := { p with longitude := p.longitude.opposite }

/-- A curve call that bends the other way: the turn to the center is opposed where it is stated. -/
def CurveCall.mirror (direction : Value) (c : CurveCall) : CurveCall :=
  { c with direction := direction, turn := c.turn.mirror }

/-- Great circles that look the same in the mirror: one that leaves a point on a bearing is shown as
the one that leaves the mirrored point on the opposed bearing. -/
structure Globe.IsMirrored (g : Globe ℚ Point) : Prop where
  leadTo : ∀ p distance, ∀ b ∈ Set.Ico (0 : ℚ) 360, ∀ b' ∈ Set.Ico (0 : ℚ) 360, Opposed b b' →
    Together (fun q q' => q' = q.mirror) (g.leadTo p distance b) (g.leadTo p.mirror distance b')
  toward : ∀ p q, Together Opposed (g.toward p q) (g.toward p.mirror q.mirror)

/-- A turn to the center and what the mirror shows of it. -/
inductive Turn.Mirrors : Turn ℚ → Turn ℚ → Prop
  | stated (x : ℚ) : Mirrors (.stated x) (.stated (-x))
  | usual (n : Number) : Mirrors (.usual (.number n)) (.usual (.number n.opposite))

/-- A curve and what the mirror shows of it. -/
structure Curve.Mirrors (curve curve' : Curve ℚ Point) : Prop where
  tangent : Opposed curve.tangent curve'.tangent
  delta : curve'.delta = curve.delta
  turn : curve.turn.Mirrors curve'.turn
  center : curve'.center = curve.center.mirror
  finish : curve'.finish = curve.finish.mirror

/-! ## Angles -/

open Reckoning (exact wrap_exact)

namespace Opposed

variable {x x' y y' : ℚ}

theorem neg (x : ℚ) : Opposed x (-x) := AddCommGroup.modEq_rfl

theorem add (hx : Opposed x x') (hy : Opposed y y') : Opposed (x + y) (x' + y') := by
  rw [Opposed, neg_add]
  exact AddCommGroup.ModEq.add hx hy

/-- Angles that make up a turn. -/
theorem of_add_eq (h : x + x' = 360) : Opposed x x' :=
  AddCommGroup.modEq_iff_eq_add_zsmul.mpr ⟨-1, by rw [zsmul_eq_mul, ← h]; push_cast; ring⟩

/-- Half a turn is its own mirror image. -/
theorem halfTurn : Opposed 180 180 := of_add_eq (by norm_num)

theorem wrap (h : Opposed x x') : Opposed (exact.wrap x) (exact.wrap x') :=
  (wrap_exact x').2.trans (AddCommGroup.ModEq.trans h
    (AddCommGroup.neg_modEq_neg.mpr (wrap_exact x).2.symm))

end Opposed

/-- The opposite of a number is given as the opposite. -/
theorem Number.together_given (n : Number) :
    Together (fun x x' => x' = -x) (exact.given n) (exact.given n.opposite) := by
  obtain ⟨hfinite, hworth⟩ := n.opposite_spec
  cases h : n.isFinite with
  | true =>
    have hn : exact.given n = .ok n.worth := if_pos h
    have hn' : exact.given n.opposite = .ok n.opposite.worth := if_pos (hfinite.trans h)
    rw [hn, hn']
    exact .ok (hworth h)
  | false =>
    have hn : exact.given n = .error (.notANumeral n.text) := if_neg (by simp [h])
    have hn' : exact.given n.opposite = .error (.notANumeral n.opposite.text) :=
      if_neg (by simp [hfinite, h])
    rw [hn, hn']
    exact .error

namespace Curve

/-! ## Laying out -/

section LayingOut

variable {g : Globe ℚ Point} (hg : g.IsMirrored)

include hg

theorem together_arriving (p q : Point) :
    Together (fun x x' => Opposed x x' ∧ x ∈ Set.Ico 0 360 ∧ x' ∈ Set.Ico 0 360)
      (arriving exact g p q) (arriving exact g p.mirror q.mirror) :=
  (hg.toward q p).map fun _ _ h =>
    ⟨(h.add .halfTurn).wrap, (wrap_exact _).1, (wrap_exact _).1⟩

theorem together_leadTo (p : Point) (distance : ℚ) {x x' : ℚ} (h : Opposed x x') :
    Together (fun q q' => q' = q.mirror) (g.leadTo p distance (exact.wrap x))
      (g.leadTo p.mirror distance (exact.wrap x')) :=
  hg.leadTo p distance _ (wrap_exact x).1 _ (wrap_exact x').1 h.wrap

omit hg in
theorem together_addTurn {x x' : ℚ} {turn turn' : Turn ℚ} (hx : Opposed x x')
    (hturn : turn.Mirrors turn') :
    Together Opposed (addTurn exact x turn) (addTurn exact x' turn') := by
  cases hturn with
  | stated y => exact .ok (hx.add (.neg y))
  | usual n =>
    exact n.together_given.map fun y y' hy => hx.add (hy ▸ .neg y)

/-- Bending the other way in the mirror leads where the mirror shows it. -/
theorem together_layOut (previous start : Point) (delta radius : ℚ) {turn turn' : Turn ℚ}
    (hturn : turn.Mirrors turn') :
    Together Mirrors (layOut exact g previous start true delta turn radius)
      (layOut exact g previous.mirror start.mirror false delta turn' radius) := by
  refine (together_arriving hg previous start).bind fun tangent tangent' htangent => ?_
  refine (together_addTurn htangent.1 hturn).bind fun toCenter toCenter' htoCenter => ?_
  refine (together_leadTo hg start radius htoCenter).bind fun center center' hcenter => ?_
  subst hcenter
  refine (together_arriving hg start center).bind fun radial radial' hradial => ?_
  have hswung : Opposed (radial - (180 - delta)) (radial' + (180 - delta)) := by
    have hswing : Opposed (-(180 - delta)) (180 - delta) := by
      rw [Opposed, neg_neg]
    exact sub_eq_add_neg radial _ ▸ hradial.1.add hswing
  refine (together_leadTo hg center radius hswung).bind fun finish finish' hfinish => ?_
  exact .ok ⟨htangent.1, rfl, hturn, rfl, hfinish⟩

end LayingOut

/-! ## Calls -/

section Calls

variable {c : CurveCall} {left usual : Value}

theorem isOpen_mirror {marks : List String} {v : Value} :
    isOpen marks v.mirror = isOpen marks v := by
  cases v <;> rfl

/-- A turn that is left open goes to the side that the curve bends to. -/
theorem turnOf_of_open (left : Value) (hopen : isOpen [] c.turn = true) (n : Number) :
    turnOf exact c true (.number n) = .ok (.usual (.number n)) ∧
      turnOf exact (c.mirror left) false (.number n) = .ok (.usual (.number n.opposite)) := by
  have hopen' : isOpen [] (c.mirror left).turn = true := isOpen_mirror.trans hopen
  exact ⟨by rw [turnOf, if_pos hopen]; rfl, by rw [turnOf, if_pos hopen']; rfl⟩

theorem turnOf_of_stated {n : Number} (hturn : c.turn = .number n) :
    Together Turn.Mirrors (turnOf exact c true usual)
      (turnOf exact (c.mirror left) false usual) := by
  have hturn' : (c.mirror left).turn = .number n.opposite := by
    rw [CurveCall.mirror, hturn]
    rfl
  rw [turnOf, turnOf, hturn, hturn']
  exact n.together_given.map fun x x' hx => hx ▸ .stated x

/-- Where the usual turn is no number a curve that leaves its turn open is laid out to neither
side. -/
theorem not_resolved (hopen : isOpen [] c.turn = true) (husual : ∀ n, usual ≠ .number n)
    {g : Globe ℚ Point} {metres : Value → Except Error ℚ} {previous start : Option Point}
    (curve : Curve ℚ Point) :
    resolve exact g metres usual previous start c ≠ .ok curve := by
  intro h
  obtain ⟨p, q, clockwise', delta, turn, radius, -, -, -, -, hturn, -, h⟩ := resolve_eq_ok h
  rw [turnOf, if_pos hopen] at hturn
  obtain ⟨tangent, -, h⟩ := bind_eq_ok.mp h
  obtain ⟨toCenter, hadd, -⟩ := bind_eq_ok.mp h
  cases usual with
  | number n => exact husual n rfl
  | _ =>
    cases clockwise' with
    | true =>
      cases hturn
      cases hadd
    | false => cases hturn

/-- **A curve to the left is the mirror image of the curve to the right.** -/
theorem left_mirrors_right {g : Globe ℚ Point} (hg : g.IsMirrored) (metres : Value → Except Error ℚ)
    (usual : Value) (previous start : Option Point) {c : CurveCall} {left : Value}
    (hright : directionOfValue c.direction = .ok true) (hleft : directionOfValue left = .ok false)
    (hturn : isOpen [] c.turn = true ∨ ∃ n, c.turn = .number n) :
    Together Mirrors (resolve exact g metres usual previous start c)
      (resolve exact g metres usual (previous.map Point.mirror) (start.map Point.mirror)
        (c.mirror left)) := by
  by_cases hlaid : isOpen [] c.turn = true ∧ ∀ n, usual ≠ .number n
  · obtain ⟨hopen, husual⟩ := hlaid
    exact .of_ne_ok (not_resolved hopen husual)
      (not_resolved (c := c.mirror left) (isOpen_mirror.trans hopen) husual)
  have hturns : Together Turn.Mirrors (turnOf exact c true usual)
      (turnOf exact (c.mirror left) false usual) := by
    rcases hturn with hopen | ⟨n, hn⟩
    · have hnumber : ∃ n, usual = .number n := by
        by_contra hnone
        exact hlaid ⟨hopen, fun n hn => hnone ⟨n, hn⟩⟩
      obtain ⟨n, rfl⟩ := hnumber
      obtain ⟨h, h'⟩ := turnOf_of_open left hopen n
      rw [h, h']
      exact .ok (.usual n)
    · exact turnOf_of_stated hn
  cases previous with
  | none => exact .bindSame fun _ => .error
  | some p =>
    cases start with
    | none => exact .bindSame fun _ => .error
    | some q =>
      rw [resolve, Option.map_some, Option.map_some, resolve, hright]
      change Together Mirrors _ (directionOfValue left >>= _)
      rw [hleft]
      exact .bindSame fun delta => hturns.bind fun turn turn' hturn =>
        .bindSame fun radius => together_layOut hg p q delta radius hturn

end Calls

end Curve

/-! ## Curves on a grid -/

/-- Latitude and longitude of a point that has both in whole degrees. -/
def Point.degrees? (p : Point) : Option (ℤ × ℤ) :=
  match p.latitude.whole?, p.longitude.whole? with
  | some y, some x => some (y, x)
  | _, _ => none

/-- The point at whole degrees. -/
def Point.atDegrees (y x : ℤ) : Point := { latitude := .whole y, longitude := .whole x }

/-- The great circles along the meridians and the equator, followed for whole degrees, each of which
is a meter. -/
def Globe.grid : Globe ℚ Point where
  toward p q :=
    match p.degrees?, q.degrees? with
    | some (y, x), some (y', x') =>
      if x = x' then .ok (if y < y' then 0 else 180)
      else if y = 0 ∧ y' = 0 then .ok (if x < x' then 90 else 270)
      else .error (.notFinite "nan" "nan")
    | _, _ => .error (.notFinite "nan" "nan")
  leadTo p distance bearing :=
    match p.degrees? with
    | some (y, x) =>
      if bearing = 0 then .ok (.atDegrees (y + ⌊distance⌋) x)
      else if bearing = 180 then .ok (.atDegrees (y - ⌊distance⌋) x)
      else if y = 0 ∧ bearing = 90 then .ok (.atDegrees 0 (x + ⌊distance⌋))
      else if y = 0 ∧ bearing = 270 then .ok (.atDegrees 0 (x - ⌊distance⌋))
      else .error (.notFinite "nan" "nan")
    | none => .error (.notFinite "nan" "nan")

theorem Point.degrees?_mirror (p : Point) :
    p.mirror.degrees? = p.degrees?.map fun e => (e.1, -e.2) := by
  have hwhole (n : Number) : n.opposite.whole? = n.whole?.map (- ·) := by
    cases n with
    | truth b => cases b <;> rfl
    | whole k => rfl
    | real x => rfl
  rw [degrees?, degrees?, mirror]
  dsimp only
  rw [hwhole]
  cases p.latitude.whole? <;> cases p.longitude.whole? <;> rfl

/-- Of two opposed angles within one turn both are zero, or they make up a turn. -/
theorem Opposed.within {x x' : ℚ} (h : Opposed x x') (hx : x ∈ Set.Ico 0 360)
    (hx' : x' ∈ Set.Ico 0 360) : x = 0 ∧ x' = 0 ∨ x' = 360 - x := by
  obtain ⟨k, hk⟩ := AddCommGroup.modEq_iff_eq_add_zsmul.mp h
  rw [zsmul_eq_mul] at hk
  obtain ⟨hlow, hhigh⟩ := hx
  obtain ⟨hlow', hhigh'⟩ := hx'
  have hk0 : k ≤ 0 := by
    have : (k : ℚ) < 1 := by linarith
    exact Int.lt_add_one_iff.mp (by exact_mod_cast this)
  have hk1 : -2 < k := by
    have : (-2 : ℚ) < k := by linarith
    exact_mod_cast this
  obtain rfl | rfl : k = 0 ∨ k = -1 := by omega
  · left
    push_cast at hk
    constructor <;> linarith
  · right
    push_cast at hk
    linarith

theorem Globe.isMirrored_grid : grid.IsMirrored where
  leadTo p distance b hb b' hb' h := by
    dsimp only [grid]
    rw [Point.degrees?_mirror]
    cases p.degrees? with
    | none => exact .error
    | some e =>
      obtain ⟨y, x⟩ := e
      rcases h.within hb hb' with ⟨rfl, rfl⟩ | rfl
      · exact .ok rfl
      -- south stays south, east and west change places
      have hnorth : ¬b = 0 := fun h => by linarith [hb'.2]
      have hnorth' : ¬360 - b = 0 := fun h => by linarith [hb.2]
      have hsouth : 360 - b = 180 ↔ b = 180 := by constructor <;> intro <;> linarith
      have heast : 360 - b = 90 ↔ b = 270 := by constructor <;> intro <;> linarith
      have hwest : 360 - b = 270 ↔ b = 90 := by constructor <;> intro <;> linarith
      rw [Option.map_some]
      dsimp only
      rw [if_neg hnorth, if_neg hnorth']
      simp only [hsouth, heast, hwest]
      split_ifs with h180 heast hwest hwest
      · exact .ok rfl
      · exact absurd (heast.2.symm.trans hwest.2) (by norm_num)
      · exact .ok (congrArg (Point.atDegrees 0) (by ring))
      · exact .ok (congrArg (Point.atDegrees 0) (by ring))
      · exact .error
  toward p q := by
    dsimp only [grid]
    rw [Point.degrees?_mirror, Point.degrees?_mirror]
    cases p.degrees? with
    | none => exact .error
    | some e =>
      cases q.degrees? with
      | none => exact .error
      | some e' =>
        obtain ⟨⟨y, x⟩, y', x'⟩ := e, e'
        rw [Option.map_some, Option.map_some]
        dsimp only
        simp only [neg_inj, neg_lt_neg_iff]
        split_ifs with hmeridian hnorth hequator heast hwest hwest
        · exact .ok (.neg 0)
        · exact .ok .halfTurn
        · exact absurd hwest heast.asymm
        · exact .ok (.of_add_eq (by norm_num))
        · exact .ok (.of_add_eq (by norm_num))
        · exact absurd (le_antisymm (not_lt.mp hwest) (not_lt.mp heast)) hmeridian
        · exact .error

namespace Curve

/-- A half circle to the right, square to the equator. -/
def south : CurveCall where
  distance := .nothing
  direction := .text "TRUE"
  radius := .number (.whole 10)
  delta := .number (.whole 180)
  turn := .nothing
  memo := .text "1"

theorem left_mirrors_right_south :
    ∃ curve curve' : Curve ℚ Point,
      resolve exact .grid exact.read (.number (.whole 90)) (some (.atDegrees 0 0))
        (some (.atDegrees 0 10)) south = .ok curve ∧
      resolve exact .grid exact.read (.number (.whole 90)) (some (.atDegrees 0 0))
        (some (.atDegrees 0 (-10))) (south.mirror (.text "FALSE")) = .ok curve' ∧
      curve'.finish = curve.finish.mirror := by
  have hright : directionOfValue south.direction = .ok true := rfl
  have hleft : directionOfValue (.text "FALSE") = .ok false := rfl
  have hmirrored := left_mirrors_right Globe.isMirrored_grid exact.read (.number (.whole 90))
    (some (.atDegrees 0 0)) (some (.atDegrees 0 10)) hright hleft (.inl rfl)
  obtain ⟨curve, hcurve⟩ := exists_eq_ok (x := resolve exact .grid exact.read (.number (.whole 90))
    (some (.atDegrees 0 0)) (some (.atDegrees 0 10)) south) (by decide +kernel)
  rw [hcurve] at hmirrored
  obtain ⟨curve', hcurve', h⟩ := hmirrored.of_ok
  exact ⟨curve, curve', hcurve, hcurve', h.finish⟩

end Curve

end MetesBounds
