import Mathlib.Data.Option.Basic

namespace Transition

variable {State : Type} {body : State → Option State}

/-- The loop is left in the last state, after exactly that many rounds. The body is `none` where the
    condition of the loop fails. -/
inductive Leaves (body : State → Option State) : State → Nat → State → Prop where
  | exit {s : State} (done : body s = none) : Leaves body s 0 s
  | round {s t u : State} {rounds : Nat} (once : body s = some t) (later : Leaves body t rounds u) :
      Leaves body s (rounds + 1) u

theorem Leaves.unique {s t u : State} {rounds others : Nat} (left : Leaves body s rounds t)
    (right : Leaves body s others u) : others = rounds ∧ u = t := by
  induction left generalizing others with
  | exit done =>
    cases right with
    | exit _ => exact ⟨rfl, rfl⟩
    | round once _ =>
      rw [done] at once
      cases once
  | round once _ ih =>
    cases right with
    | exit done =>
      rw [done] at once
      cases once
    | round again later =>
      rw [once] at again
      cases again
      obtain ⟨same, state⟩ := ih later
      exact ⟨congrArg (· + 1) same, state⟩

end Transition
