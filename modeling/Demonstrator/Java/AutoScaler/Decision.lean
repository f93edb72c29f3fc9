import Demonstrator.Java.AutoScaler.Polls
import Mathlib.Data.Int.ConditionallyCompleteOrder
import Mathlib.Order.Monotone.Basic
import Mathlib.Tactic.Linarith

namespace AutoScaler

open ConfigUtils

/-- The relative replica change of a decision, none counting as zero. -/
def change : Option Int32 → Int
  | none => 0
  | some relReplicas => relReplicas.toInt

def AutoScalerConfig.change (config : AutoScalerConfig) (slope value : ℚ) : Int :=
  AutoScaler.change (relReplicas config slope value)

/-- What a check asks for that reads `value` when the check before it has read `old`. -/
def AutoScalerConfig.delta (config : AutoScalerConfig) (old value : ℚ) : Int :=
  AutoScaler.change (AutoScalerImpl.checkQueue { config, oldValue := old, slope := 0 } value).2

namespace AutoScalerConfig

variable (config : AutoScalerConfig)

theorem barriers_lt : (config.queueLowBarrier.toInt : ℚ) < config.queueHighBarrier.toInt := by
  have order := Int32.lt_iff_toInt_lt.mp config.barriers
  exact_mod_cast order

theorem pollInterval_pos : (0 : ℚ) < config.pollInterval.toInt := by
  have one : (1 : Int32).toInt = 1 := rfl
  have polls := Int32.le_iff_toInt_le.mp config.polls
  rw [one] at polls
  have positive : 0 < config.pollInterval.toInt := by omega
  exact_mod_cast positive

theorem change_eq (slope value : ℚ) :
    config.change slope value =
      if config.slope2 < slope then 2
      else if config.slope1 < slope then 1
      else if -config.slope1 < slope then
        if value < config.queueLowBarrier.toInt then -1
        else if config.queueHighBarrier.toInt < value then 1
        else 0
      else if -config.slope2 < slope ∧ value < config.queueHighBarrier.toInt then -1
      else if value < config.queueHighBarrier.toInt then -2
      else 0 := by
  unfold AutoScalerConfig.change relReplicas
  split_ifs <;> rfl

theorem change_bounds (slope value : ℚ) : -2 ≤ config.change slope value ∧ config.change slope value ≤ 2 := by
  rw [change_eq]
  split_ifs <;> omega

theorem two_le_change (slope value : ℚ) : 2 ≤ config.change slope value ↔ config.slope2 < slope := by
  rw [change_eq]
  split_ifs <;> simp_all

theorem one_le_change (slope value : ℚ) :
    1 ≤ config.change slope value ↔
      config.slope1 < slope ∨ -config.slope1 < slope ∧ config.queueHighBarrier.toInt < value := by
  have slopes := config.slopes
  have barriers := config.barriers_lt
  rw [change_eq]
  split_ifs <;> grind

theorem zero_le_change (slope value : ℚ) :
    0 ≤ config.change slope value ↔
      config.slope1 < slope ∨ -config.slope1 < slope ∧ config.queueLowBarrier.toInt ≤ value ∨
        config.queueHighBarrier.toInt ≤ value := by
  have slopes := config.slopes
  have barriers := config.barriers_lt
  rw [change_eq]
  split_ifs <;> grind

theorem minus_one_le_change (slope value : ℚ) :
    -1 ≤ config.change slope value ↔ -config.slope2 < slope ∨ config.queueHighBarrier.toInt ≤ value := by
  have slopes := config.slopes
  have rising := config.rising
  rw [change_eq]
  split_ifs <;> grind

/-- Each level of the decision is reached from a threshold on, so a steeper slope and a fuller queue
    never ask for less. -/
theorem change_mono {slope slope' value value' : ℚ} (steeper : slope ≤ slope') (fuller : value ≤ value') :
    config.change slope value ≤ config.change slope' value' := by
  have bounds := config.change_bounds slope value
  have bounds' := config.change_bounds slope' value'
  have two : 2 ≤ config.change slope value → 2 ≤ config.change slope' value' := by
    rw [two_le_change, two_le_change]
    intro steep
    linarith
  have one : 1 ≤ config.change slope value → 1 ≤ config.change slope' value' := by
    rw [one_le_change, one_le_change]
    intro reached
    rcases reached with steep | ⟨slow, beyond⟩
    · left
      linarith
    · right
      constructor <;> linarith
  have zero : 0 ≤ config.change slope value → 0 ≤ config.change slope' value' := by
    rw [zero_le_change, zero_le_change]
    intro reached
    rcases reached with steep | ⟨slow, inside⟩ | beyond
    · left
      linarith
    · right; left
      constructor <;> linarith
    · right; right
      linarith
  have minusOne : -1 ≤ config.change slope value → -1 ≤ config.change slope' value' := by
    rw [minus_one_le_change, minus_one_le_change]
    intro reached
    rcases reached with slow | beyond
    · left
      linarith
    · right
      linarith
  omega

theorem delta_eq (old value : ℚ) :
    config.delta old value = config.change ((value - old) / config.pollInterval.toInt) value :=
  rfl

theorem delta_monotone (old : ℚ) : Monotone (config.delta old) := by
  intro value value' fuller
  rw [delta_eq, delta_eq]
  apply config.change_mono _ fuller
  exact div_le_div_of_nonneg_right (by linarith) config.pollInterval_pos.le

theorem delta_antitone (value : ℚ) : Antitone fun old => config.delta old value := by
  intro old old' later
  simp only [delta_eq]
  apply config.change_mono _ le_rfl
  exact div_le_div_of_nonneg_right (by linarith) config.pollInterval_pos.le

theorem delta_nonneg (old value : ℚ) (full : config.queueHighBarrier.toInt ≤ value) :
    0 ≤ config.delta old value := by
  rw [delta_eq, zero_le_change]
  exact .inr (.inr full)

theorem delta_neg (old value : ℚ) (empty : value < config.queueLowBarrier.toInt)
    (slow : (value - old) / config.pollInterval.toInt ≤ config.slope1) : config.delta old value < 0 := by
  have barriers := config.barriers_lt
  rw [delta_eq, ← not_le, zero_le_change]
  intro reached
  rcases reached with steep | ⟨_, inside⟩ | full
  · linarith
  · linarith
  · linarith

end AutoScalerConfig

/-- With every configuration that calls of `updated` can set, the decision follows the queue. -/
theorem decision_follows_queue (start : AutoScalerConfig) (updates : List (Option Dictionary)) :
    let config := (updates.foldl AutoScalerImpl.updated (.create start)).config
    (∀ old, Monotone (config.delta old)) ∧
      (∀ value, Antitone fun old => config.delta old value) ∧
      (∀ old value : ℚ, config.queueHighBarrier.toInt ≤ value → 0 ≤ config.delta old value) ∧
      ∀ old value : ℚ, value < config.queueLowBarrier.toInt →
        (value - old) / config.pollInterval.toInt ≤ config.slope1 → config.delta old value < 0 := by
  intro config
  exact ⟨config.delta_monotone, config.delta_antitone, config.delta_nonneg, config.delta_neg⟩

end AutoScaler
