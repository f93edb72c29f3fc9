import Demonstrator.Celix.SampleQueue.Histories
import Mathlib.Tactic.Linarith
import Mathlib.Tactic.Positivity
import Mathlib.Data.Rat.Cast.Order
import Mathlib.Tactic.Ring

namespace Celix.SampleQueue

open Transition

variable {Sample : Type}

def System.lastReset (s : System Sample) : Nat :=
  ((s.history.filterMap fun entry => entry.2.resetSize).getLast?).getD 0

structure Bookkept (s : System Sample) (items : List Sample) : Prop where
  fault : s.fault = none
  queue : s.queue.queue = some items
  size : s.queue.currentQueueSize = items.length
  bounded : items.length ≤ MAX_QUEUE_SIZE
  capacity : s.queue.maxQueueSize = MAX_QUEUE_SIZE
  counted : (items.length : Int) = s.lastReset + s.queue.putCnt - s.queue.takeCnt

theorem bookkept_initial : Bookkept (System.initial : System Sample) [] := by
  constructor <;> simp [System.initial, create, System.lastReset]

theorem lastReset_kept {s t : System Sample} {action : Action Sample} {report : Report Sample}
    (history : t.history = s.history ++ [(action, report)]) (none : report.resetSize = none) :
    t.lastReset = s.lastReset := by
  simp [System.lastReset, history, none]

theorem lastReset_reset {s t : System Sample} {action : Action Sample} {report : Report Sample} {size : Nat}
    (history : t.history = s.history ++ [(action, report)]) (reset : report.resetSize = some size) :
    t.lastReset = size := by
  simp [System.lastReset, history, reset]

theorem Transfer.length {before after : SampleQueue Sample} {items left : List Sample}
    {exchange : Exchange Sample} (moved : Transfer before items exchange after left) :
    items.length + exchange.accepted.length = exchange.removed.length + left.length := by
  have lengths := congrArg List.length moved.conserved
  simpa using lengths

theorem bookkept_step {s t : System Sample} {items : List Sample} {action : Action Sample}
    (before : Bookkept s items) (h : step s action = some t) : ∃ left, Bookkept t left := by
  obtain ⟨report, left, advance⟩ := step_advance before.queue before.fault h
  have size := before.size
  have counted := before.counted
  refine ⟨left, ?_⟩
  rcases advance.queue with ⟨moved, silent⟩ | ⟨reset, _, same, queue⟩
  · have lengths := moved.length
    refine ⟨advance.fault, moved.queue, ?_, moved.bounded before.bounded, ?_, ?_⟩
    · rw [moved.currentQueueSize]
      omega
    · rw [moved.maxQueueSize, before.capacity]
    · rw [lastReset_kept advance.history silent, moved.putCnt, moved.takeCnt]
      omega
  · subst same
    have kept := lastReset_reset advance.history reset
    constructor <;> simp [queue, kept, before.queue, before.size, before.bounded, before.capacity,
      advance.fault]

theorem utilization_range (q : SampleQueue Sample) (size : Nat) (current : q.currentQueueSize = size)
    (capacity : q.maxQueueSize = MAX_QUEUE_SIZE) (bound : size ≤ MAX_QUEUE_SIZE) :
    0 ≤ q.getUtilizationStatsValue ∧ q.getUtilizationStatsValue ≤ 100 := by
  have value : q.getUtilizationStatsValue = (size : ℚ) / 100 := by
    simp only [getUtilizationStatsValue, current, capacity, MAX_QUEUE_SIZE, Int.cast_natCast]
    push_cast
    ring
  have bound' : (size : ℚ) ≤ 10000 := by exact_mod_cast bound
  rw [value]
  constructor
  · positivity
  · linarith

/-- In every reachable state the three counters agree with the list and the list fits its capacity. -/
theorem queue_bookkeeping (actions : List (Action Sample)) (final : System Sample)
    (run : exec step System.initial actions = some final) :
    ∃ items, final.queue.queue = some items ∧
      final.queue.currentQueueSize = items.length ∧
      0 ≤ final.queue.currentQueueSize ∧ final.queue.currentQueueSize ≤ MAX_QUEUE_SIZE ∧
      0 ≤ final.queue.getUtilizationStatsValue ∧ final.queue.getUtilizationStatsValue ≤ 100 ∧
      (items.length : Int) = final.lastReset + final.queue.putCnt - final.queue.takeCnt := by
  have invariant : ∃ items, Bookkept final items :=
    exec_invariant (fun s action t before h => bookkept_step before.choose_spec h)
      ⟨[], bookkept_initial⟩ run
  obtain ⟨items, holds⟩ := invariant
  have range := utilization_range final.queue items.length holds.size holds.capacity holds.bounded
  have bounded := holds.bounded
  refine ⟨items, holds.queue, holds.size, ?_, ?_, range.1, range.2, holds.counted⟩
  · rw [holds.size]
    omega
  · rw [holds.size]
    omega

def timedOutRun : List (Action Nat) :=
  [.putAll 0 [4, 5, 6] (fun i => i != 2) (fun _ => true), .printStatistics, .takeAll 1 3 2,
    .wake 1 .etimedout, .take 1 none]

theorem queue_bookkeeping_reset :
    ∃ final, exec step System.initial timedOutRun = some final ∧ final.lastReset = 2 ∧
      final.queue.takeCnt = 1 ∧ ∃ items, final.queue.queue = some items ∧
      final.queue.currentQueueSize = items.length ∧
      (items.length : Int) = final.lastReset + final.queue.putCnt - final.queue.takeCnt := by
  refine ⟨_, rfl, by decide, by decide, ?_⟩
  obtain ⟨items, queue, size, _, _, _, _, counted⟩ := queue_bookkeeping timedOutRun _ rfl
  exact ⟨items, queue, size, counted⟩

end Celix.SampleQueue
