import MetesBounds.Proofs.Traverse.Update

/-!
# `Traverse/Bindings` — what a binding changes, whatever it is for

A binding call uses whatever stands in its name, be it a text or not. Two spellings of one value,
such as `1` and `1.0`, are the same symbol, and the table keeps the one that it was first given.
`Traverse.bound?` looks at the table without regard to spelling. Seen in this way, a binding changes
what is found under its own symbol and nothing else.

Main statement: `Traverse.bound?_bind`.
-/

set_option autoImplicit false

namespace MetesBounds

/-! ## Symbols but for their spelling -/

namespace Symbol

variable {a b c : Symbol}

@[simp] theorem same_self (a : Symbol) : a.same a = true := by
  cases a <;> simp [same]

theorem same_comm (a b : Symbol) : a.same b = b.same a := by
  cases a <;> cases b <;> first | rfl | exact BEq.comm

theorem same_trans (hab : a.same b = true) (hbc : b.same c = true) : a.same c = true := by
  cases a <;> cases b <;> cases c <;> simp_all [same]

/-- What is the same as one of two such symbols is the same as the other. -/
theorem same_congr (hab : a.same b = true) (c : Symbol) : a.same c = b.same c := by
  have hba : b.same a = true := (same_comm b a).trans hab
  rw [Bool.eq_iff_iff]
  exact ⟨same_trans hba, same_trans hab⟩

end Symbol

namespace Traverse

/-- What is bound under a symbol, however it is spelled. -/
def bound? (t : Traverse) (s : Symbol) : Option Value :=
  (t.symbols.entries.find? fun e => s.same e.1).map Prod.snd

/-- Under a name it is what a look-up finds. -/
theorem bound?_named (t : Traverse) (n : String) :
    t.bound? (.named n) = t.symbols.get? (.named n) := by
  rw [bound?, Table.get?]
  induction t.symbols.entries with
  | nil => rfl
  | cons e rest ih =>
    rw [Table.find?, List.find?_cons]
    by_cases he : e.1 = .named n
    · simp [he]
    · have hs : (Symbol.named n).same e.1 = false := by
        rw [Symbol.same_comm, Bool.eq_false_iff]
        exact fun h => he (same_named h)
      rw [hs, if_neg he]
      exact ih

/-- A value that is put under the spelling that a table keeps for a symbol is found under that
symbol alone. -/
theorem find?_put_spelling (s r : Symbol) (v : Value) (entries : List (Symbol × Value)) :
    ((Table.put (((entries.map Prod.fst).find? s.same).getD s) v entries).find?
        fun e => r.same e.1).map Prod.snd =
      if s.same r = true then some v else (entries.find? fun e => r.same e.1).map Prod.snd := by
  induction entries with
  | nil =>
    rw [List.map_nil, List.find?_nil, Option.getD_none, Table.put, List.find?_cons,
      Symbol.same_comm r s]
    cases s.same r <;> rfl
  | cons e rest ih =>
    rw [List.map_cons, List.find?_cons]
    cases he : s.same e.1 with
    | true =>
      -- the entry keeps its spelling, and that is as good as `s` to look for
      have hr : r.same e.1 = s.same r := by
        rw [Symbol.same_comm r, Symbol.same_congr ((Symbol.same_comm _ _).trans he)]
      simp only [Option.getD_some, Table.put, if_pos, List.find?_cons, hr]
      cases s.same r <;> rfl
    | false =>
      have hne : e.1 ≠ ((rest.map Prod.fst).find? s.same).getD s := by
        intro heq
        have hs : s.same (((rest.map Prod.fst).find? s.same).getD s) = true := by
          cases hf : (rest.map Prod.fst).find? s.same with
          | none => exact Symbol.same_self s
          | some k => exact List.find?_some hf
        rw [← heq, he] at hs
        cases hs
      simp only [Table.put, if_neg hne, List.find?_cons]
      cases hr : r.same e.1 with
      | false => exact ih
      | true =>
        have hsr : s.same r = false := by
          rw [← he, ← Symbol.same_comm, Symbol.same_congr hr, Symbol.same_comm]
        simp [hsr]

/-- **What a binding changes**: what is bound under its own symbol, and nothing else. -/
theorem bound?_bind (t : Traverse) (s r : Symbol) (v : Value) :
    (t.bind s v).bound? r = if s.same r = true then some v else t.bound? r :=
  find?_put_spelling s r v t.symbols.entries

end Traverse

end MetesBounds
