import Mathlib.Logic.Function.Basic

namespace Transition

variable {Key Value : Type} [DecidableEq Key] {table : Key → Option Value} {changed key : Key} {value found : Value}

theorem update_some_iff : Function.update table changed (some value) key = some found ↔
    (key = changed ∧ found = value) ∨ (key ≠ changed ∧ table key = some found) := by
  by_cases same : key = changed
  · simp [same, eq_comm]
  · simp [same]

theorem update_none_iff : Function.update table changed none key = some found ↔
    key ≠ changed ∧ table key = some found := by
  by_cases same : key = changed
  · simp [same]
  · simp [same]

end Transition
