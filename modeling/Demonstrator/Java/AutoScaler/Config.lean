import Demonstrator.Java.Util.ConfigUtils
import Mathlib.Algebra.Order.Ring.Unbundled.Rat
import Mathlib.Tactic.NormNum

namespace AutoScaler

open ConfigUtils

def keyPollInterval : String := "poll.interval"
def keyQueueLowBarrier : String := "queue.barrierLow"
def keyQueueHighBarrier : String := "queue.barrierHigh"
def keyQueueSlope1 : String := "queue.slope1"
def keyQueueSlope2 : String := "queue.slope2"

structure AutoScalerConfig where
  pollInterval : Int32
  queueLowBarrier : Int32
  queueHighBarrier : Int32
  slope1 : ℚ
  slope2 : ℚ
  polls : 1 ≤ pollInterval
  low : 1 ≤ queueLowBarrier
  barriers : queueLowBarrier < queueHighBarrier
  high : queueHighBarrier ≤ 100
  rising : 0 ≤ slope1
  slopes : slope1 < slope2
  steepest : slope2 ≤ 100

namespace AutoScalerConfig

def default : AutoScalerConfig where
  pollInterval := 5
  queueLowBarrier := 10
  queueHighBarrier := 35
  slope1 := 5
  slope2 := 10
  polls := by decide
  low := by decide
  barriers := by decide
  high := by decide
  rising := by norm_num
  slopes := by norm_num
  steepest := by norm_num

def ofProperties (properties : Dictionary) : Except ConfigurationException AutoScalerConfig := do
  let pollInterval ← getIntValue properties keyPollInterval
  if polls : pollInterval < 1 then throw ⟨keyPollInterval, "invalid value!"⟩
  else
    let queueLowBarrier ← getIntValue properties keyQueueLowBarrier
    if low : queueLowBarrier < 1 ∨ 100 < queueLowBarrier then throw ⟨keyQueueLowBarrier, "invalid value!"⟩
    else
      let queueHighBarrier ← getIntValue properties keyQueueHighBarrier
      if high : queueHighBarrier < 1 ∨ 100 < queueHighBarrier ∨ queueHighBarrier ≤ queueLowBarrier then
        throw ⟨keyQueueHighBarrier, "invalid value!"⟩
      else
        let slope1 : ℚ := (← getIntValue properties keyQueueSlope1).toInt
        if rising : slope1 < 0 ∨ 100 < slope1 then throw ⟨keyQueueSlope1, "invalid value!"⟩
        else
          let slope2 : ℚ := (← getIntValue properties keyQueueSlope2).toInt
          if steepest : slope2 < 0 ∨ 100 < slope2 ∨ slope2 ≤ slope1 then
            throw ⟨keyQueueSlope2, "invalid value!"⟩
          else
            return {
              pollInterval, queueLowBarrier, queueHighBarrier, slope1, slope2
              polls := Int32.not_lt.mp polls
              low := Int32.not_lt.mp (not_or.mp low).1
              barriers := Int32.not_le.mp (not_or.mp (not_or.mp high).2).2
              high := Int32.not_lt.mp (not_or.mp (not_or.mp high).2).1
              rising := not_lt.mp (not_or.mp rising).1
              slopes := not_le.mp (not_or.mp (not_or.mp steepest).2).2
              steepest := not_lt.mp (not_or.mp (not_or.mp steepest).2).1 }

def keys : List String :=
  [keyPollInterval, keyQueueLowBarrier, keyQueueHighBarrier, keyQueueSlope1, keyQueueSlope2]

theorem ofProperties_error {properties : Dictionary} {e : ConfigurationException}
    (failed : ofProperties properties = .error e) : e.key ∈ keys := by
  rcases bind_error failed with failed | ⟨pollInterval, _, failed⟩
  · simp [keys, getIntValue_error failed]
  split at failed
  · cases failed
    simp [keys]
  rcases bind_error failed with failed | ⟨queueLowBarrier, _, failed⟩
  · simp [keys, getIntValue_error failed]
  split at failed
  · cases failed
    simp [keys]
  rcases bind_error failed with failed | ⟨queueHighBarrier, _, failed⟩
  · simp [keys, getIntValue_error failed]
  split at failed
  · cases failed
    simp [keys]
  rcases bind_error failed with failed | ⟨slope1, _, failed⟩
  · simp [keys, getIntValue_error failed]
  dsimp only at failed
  split at failed
  · cases failed
    simp [keys]
  rcases bind_error failed with failed | ⟨slope2, _, failed⟩
  · simp [keys, getIntValue_error failed]
  split at failed
  · cases failed
    simp [keys]
  · cases failed

end AutoScalerConfig

end AutoScaler
