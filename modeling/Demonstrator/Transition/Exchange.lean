import Mathlib.Data.List.Basic

namespace Transition

structure Exchange (Item : Type) where
  accepted : List Item
  removed : List Item

namespace Exchange

variable {Item : Type}

/-- The channel held `before`, holds `after`, and nothing was lost, duplicated or reordered. -/
def Conserves (before : List Item) (exchange : Exchange Item) (after : List Item) : Prop :=
  before ++ exchange.accepted = exchange.removed ++ after

def total (exchanges : List (Exchange Item)) : Exchange Item where
  accepted := exchanges.flatMap accepted
  removed := exchanges.flatMap removed

theorem conserves_nil (contents : List Item) : (total []).Conserves contents contents := by
  simp [Conserves, total]

theorem conserves_append (start before after : List Item) (exchanges : List (Exchange Item))
    (last : Exchange Item) (earlier : (total exchanges).Conserves start before)
    (step : last.Conserves before after) : (total (exchanges ++ [last])).Conserves start after := by
  simp only [Conserves, total, List.flatMap_append, List.flatMap_singleton] at earlier step ⊢
  calc start ++ (exchanges.flatMap accepted ++ last.accepted)
      = (start ++ exchanges.flatMap accepted) ++ last.accepted := by rw [List.append_assoc]
    _ = exchanges.flatMap removed ++ (before ++ last.accepted) := by rw [earlier, List.append_assoc]
    _ = (exchanges.flatMap removed ++ last.removed) ++ after := by rw [step, List.append_assoc]

end Exchange

end Transition
