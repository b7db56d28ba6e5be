import Mathlib.Data.List.Forall2
import MetesBounds.Error

/-!
# `Calculation` — what a calculation can fail with

`FailsIn` says of a result which errors it may be. It is passed on by every way of putting results
together, and whoever adds a step has only to look at the errors that it raises itself.

A calculation is given everything that it works on. So it fails over numbers, texts, units and
points, and never for want of what a traverse has to hold: an earlier point, a bound name, a
procedure, a call. `Calculates` says so of one result. Of most calculations more is known:
`Error.OfReckoning` lists what can be wrong with numbers, angles, directions and points.

The equations of a bind are here too. They take a chain of steps that has ended apart, from the
front.
-/

set_option autoImplicit false

namespace MetesBounds

variable {α β ε : Type}

/-! ## One step after another -/

/-- A chain gives a value just where its first step and the rest do. -/
theorem bind_eq_ok {x : Except ε α} {f : α → Except ε β} {b : β} :
    (x >>= f) = .ok b ↔ ∃ a, x = .ok a ∧ f a = .ok b := by
  cases x with
  | error _ =>
    constructor
    · intro h; cases h
    · rintro ⟨_, h, _⟩; cases h
  | ok a =>
    constructor
    · intro h; exact ⟨a, rfl, h⟩
    · rintro ⟨_, ⟨⟩, h⟩; exact h

/-- A chain fails where its first step does, or where the rest does after it. -/
theorem bind_eq_error {x : Except ε α} {f : α → Except ε β} {err : ε} :
    (x >>= f) = .error err ↔ x = .error err ∨ ∃ a, x = .ok a ∧ f a = .error err := by
  cases x with
  | error _ =>
    constructor
    · intro h; cases h; exact .inl rfl
    · rintro (⟨⟨⟩⟩ | ⟨_, h, _⟩)
      · rfl
      · cases h
  | ok a =>
    constructor
    · intro h; exact .inr ⟨a, rfl, h⟩
    · rintro (h | ⟨_, ⟨⟩, h⟩)
      · cases h
      · exact h

@[simp] theorem bind_ok {a : α} {f : α → Except ε β} : (Except.ok a >>= f) = f a := rfl

@[simp] theorem pure_eq_ok {a b : α} : (pure a : Except ε α) = .ok b ↔ a = b :=
  ⟨fun h => by cases h; rfl, fun h => h ▸ rfl⟩

/-- What is seen to be no error, by evaluation, is a value. -/
theorem exists_eq_ok {x : Except ε α} (h : x.isOk = true) : ∃ a, x = .ok a := by
  cases x with
  | error _ => cases h
  | ok a => exact ⟨a, rfl⟩

/-- What is seen to be a certain value, by evaluation, is this value. -/
theorem eq_ok_of_toOption {x : Except ε α} {a : α} (h : x.toOption = some a) : x = .ok a := by
  cases x with
  | error _ => cases h
  | ok _ => exact congrArg Except.ok (Option.some.inj h)

/-- Steps that have all been taken give what each of them gives. -/
theorem forall₂_of_mapM {f : α → Except ε β} {as : List α} {bs : List β}
    (h : as.mapM f = .ok bs) : List.Forall₂ (fun a b => f a = .ok b) as bs := by
  induction as generalizing bs with
  | nil => cases h; exact .nil
  | cons a as ih =>
    rw [List.mapM_cons] at h
    obtain ⟨b, hb, h⟩ := bind_eq_ok.mp h
    obtain ⟨bs, hbs, h⟩ := bind_eq_ok.mp h
    cases h
    exact .cons hb (ih hbs)

/-! ## What a result may fail with -/

/-- A result that is no error but one of some. -/
def FailsIn (p : Error → Prop) (x : Except Error α) : Prop := ∀ err, x = .error err → p err

namespace FailsIn

variable {p : Error → Prop}

theorem ok (a : α) : FailsIn p (.ok a) := fun _ h => by cases h

theorem mono {q : Error → Prop} {x : Except Error α} (hx : FailsIn p x)
    (h : ∀ err, p err → q err) : FailsIn q x := fun err he => h err (hx err he)

theorem of_eq_ok {x : Except Error α} {a : α} (h : x = .ok a) : FailsIn p x := h ▸ ok a

theorem error {err : Error} (h : p err) : FailsIn p (.error err : Except Error α) :=
  fun _ he => by cases he; exact h

theorem bind {x : Except Error α} {f : α → Except Error β} (hx : FailsIn p x)
    (hf : ∀ a, FailsIn p (f a)) : FailsIn p (x >>= f) := by
  intro err h
  rcases bind_eq_error.mp h with h | ⟨a, -, h⟩
  · exact hx err h
  · exact hf a err h

/-- A value that is only handed on. -/
theorem map {x : Except Error α} {f : α → β} (hx : FailsIn p x) :
    FailsIn p (x >>= fun a => pure (f a)) := hx.bind fun a => ok (f a)

theorem ite {q : Prop} [Decidable q] {x y : Except Error α} (hx : FailsIn p x)
    (hy : FailsIn p y) : FailsIn p (if q then x else y) := by
  split
  · exact hx
  · exact hy

theorem foldlM {f : β → α → Except Error β} (hf : ∀ b a, FailsIn p (f b a)) :
    ∀ (l : List α) (b : β), FailsIn p (l.foldlM f b)
  | [], b => ok b
  | a :: l, b => by
    rw [List.foldlM_cons]
    exact (hf b a).bind fun b => foldlM hf l b

theorem mapM {f : α → Except Error β} (hf : ∀ a, FailsIn p (f a)) :
    ∀ l : List α, FailsIn p (l.mapM f)
  | [] => by rw [List.mapM_nil]; exact ok []
  | a :: l => by
    rw [List.mapM_cons]
    exact (hf a).bind fun b => (mapM hf l).bind fun bs => ok (b :: bs)

end FailsIn

/-! ## Errors of calculation -/

/-- The kinds of error that a calculation can end in. The others tell of a traverse, of its calls,
or of a sheet. -/
def Family.ofCalculation : Family → Bool
  | missingContext | symbol | procedure | arguments | record | sheet => false
  | _ => true

/-- A result that is no error but one of calculation. -/
def Calculates (x : Except Error α) : Prop :=
  ∀ err, x = .error err → err.family.ofCalculation = true

namespace Calculates

theorem ok (a : α) : Calculates (.ok a) := FailsIn.ok a

theorem error {err : Error} (h : err.family.ofCalculation = true) :
    Calculates (.error err : Except Error α) := fun _ he => by cases he; exact h

theorem bind {x : Except Error α} {f : α → Except Error β} (hx : Calculates x)
    (hf : ∀ a, Calculates (f a)) : Calculates (x >>= f) := FailsIn.bind hx hf

/-- A value that is only handed on after a calculation. -/
theorem map {x : Except Error α} {f : α → β} (hx : Calculates x) :
    Calculates (x >>= fun a => pure (f a)) := hx.bind fun a => ok (f a)

theorem ite {p : Prop} [Decidable p] {x y : Except Error α} (hx : Calculates x)
    (hy : Calculates y) : Calculates (if p then x else y) := FailsIn.ite hx hy

theorem foldlM {f : β → α → Except Error β} (hf : ∀ b a, Calculates (f b a)) (l : List α) (b : β) :
    Calculates (l.foldlM f b) := FailsIn.foldlM hf l b

theorem mapM {f : α → Except Error β} (hf : ∀ a, Calculates (f a)) (l : List α) :
    Calculates (l.mapM f) := FailsIn.mapM hf l

end Calculates

/-! ## Errors of reckoning -/

/-- The errors of reckoning with what is given: it is no number, angle, direction or label, it is
too large or too long a number, or there is no point at such coordinates. -/
def Error.OfReckoning : Error → Prop
  | tooLarge | tooManyDigits _ | overlong | notANumeral _ | notReal _ | noRealNumber _ | noOpposite _
  | noOperation .. | badAngle _ | badBearing _ | badDirection _ | notFinite .. | beyondPole _
  | notACoordinate | notALabel _ => True
  | _ => False

theorem Error.OfReckoning.ofCalculation {err : Error} (h : err.OfReckoning) :
    err.family.ofCalculation = true := by
  unfold OfReckoning at h
  split at h
  all_goals first | rfl | exact h.elim

theorem FailsIn.calculates {x : Except Error α} (h : FailsIn Error.OfReckoning x) :
    Calculates x := h.mono fun _ => Error.OfReckoning.ofCalculation

/-! ## Values that are shown -/

namespace Value

variable {p : Error → Prop} {e : String → Error}

/-- What holds of an error whatever it shows, and of values too long to be shown, holds of it with
any value. -/
theorem blamed_of (h₀ : p .overlong) (h : ∀ s, p (e s)) (v : Value) : p (v.blamed e) := by
  unfold blamed
  split
  · exact h₀
  · exact h _

theorem blamedPlain_of (h₀ : p .overlong) (h : ∀ s, p (e s)) (v : Value) : p (v.blamedPlain e) := by
  unfold blamedPlain
  split
  · exact h₀
  · exact h _

theorem failsIn_plainText (h₀ : p .overlong) (v : Value) : FailsIn p v.plainText :=
  .ite (.error h₀) (.ok _)

end Value

end MetesBounds
