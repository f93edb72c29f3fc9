import Demonstrator.Transition.Runs
import Mathlib.Data.List.Forall2

namespace Transition

variable {State Action State' Action' : Type}

/-- When each step of one machine is answered by a block of steps of another, each of its runs is answered by the blocks
    of its steps. -/
theorem exec_simulated {step : State → Action → Option State} {step' : State' → Action' → Option State'}
    {related : State → State' → Prop} {allowed : Action → Prop} {answers : Action → List Action' → Prop}
    (matched : ∀ state action next state', related state state' → allowed action → step state action = some next →
      ∃ block next', answers action block ∧ exec step' state' block = some next' ∧ related next next')
    {state final : State} {state' : State'} {actions : List Action} (start : related state state')
    (permitted : ∀ action ∈ actions, allowed action) (run : exec step state actions = some final) :
    ∃ blocks final', List.Forall₂ answers actions blocks ∧ exec step' state' blocks.flatten = some final' ∧
      related final final' := by
  induction actions generalizing state state' with
  | nil =>
    cases run
    exact ⟨[], state', .nil, rfl, start⟩
  | cons action rest ih =>
    obtain ⟨next, first, later⟩ := exec_cons_some.mp run
    obtain ⟨here, others⟩ := List.forall_mem_cons.mp permitted
    obtain ⟨block, next', answer, ran, kept⟩ := matched state action next state' start here first
    obtain ⟨blocks, final', answered, ran', ends⟩ := ih kept others later
    refine ⟨block :: blocks, final', .cons answer answered, ?_, ends⟩
    rw [List.flatten_cons, exec_append, ran, Option.bind_some, ran']

end Transition
