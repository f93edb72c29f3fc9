import Mathlib.Algebra.BigOperators.Group.Finset.Piecewise
import Mathlib.Logic.Function.Basic

namespace Collections

variable {Key Value Amount : Type} [DecidableEq Key] [AddCommMonoid Amount] {measure : Value → Amount}
  {table : Key → Value} {written : Key} {value : Value}

/-- What is counted over a table is what is counted at each of its entries. -/
def tally (keys : Finset Key) (measure : Value → Amount) (table : Key → Value) : Amount :=
  ∑ key ∈ keys, measure (table key)

theorem tally_update {keys : Finset Key} (member : written ∈ keys) :
    tally keys measure (Function.update table written value) + measure (table written) =
      tally keys measure table + measure value := by
  have entries : ∀ key, measure (Function.update table written value key) =
      Function.update (fun key => measure (table key)) written (measure value) key := by
    intro key
    by_cases here : key = written
    · subst here
      simp
    · simp [here]
  unfold tally
  simp only [entries]
  rw [Finset.sum_update_of_mem member, ← Finset.add_sum_erase keys (fun key => measure (table key)) member,
    Finset.sdiff_singleton_eq_erase]
  ac_rfl

theorem tally_balance [IsCancelAdd Amount] {keys : Finset Key} (member : written ∈ keys)
    {kept kept' gone come : Amount}
    (balance : kept' + measure value + gone = kept + measure (table written) + come) :
    kept' + tally keys measure (Function.update table written value) + gone = kept + tally keys measure table + come := by
  have moved : tally keys measure (Function.update table written value) + measure (table written) =
      tally keys measure table + measure value := tally_update member
  apply add_right_cancel (b := measure (table written))
  calc kept' + tally keys measure (Function.update table written value) + gone + measure (table written)
      = kept' + gone + (tally keys measure (Function.update table written value) + measure (table written)) := by
        ac_rfl
    _ = kept' + gone + (tally keys measure table + measure value) := by rw [moved]
    _ = kept' + measure value + gone + tally keys measure table := by ac_rfl
    _ = kept + measure (table written) + come + tally keys measure table := by rw [balance]
    _ = kept + tally keys measure table + come + measure (table written) := by ac_rfl

theorem tally_balance_le {keys : Finset Key} {count : Value → Nat} (member : written ∈ keys) {kept kept' come : Nat}
    (balance : kept' + count value ≤ kept + count (table written) + come) :
    kept' + tally keys count (Function.update table written value) ≤ kept + tally keys count table + come := by
  have moved : tally keys count (Function.update table written value) + count (table written) =
      tally keys count table + count value := tally_update member
  omega

end Collections
