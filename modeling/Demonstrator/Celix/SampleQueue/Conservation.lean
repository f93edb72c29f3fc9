import Demonstrator.Celix.SampleQueue.Histories

namespace Celix.SampleQueue

open Transition

variable {Sample : Type}

def System.accepted (s : System Sample) : List Sample := (Exchange.total s.exchanges).accepted

def System.removed (s : System Sample) : List Sample := (Exchange.total s.exchanges).removed

structure Conserved (s : System Sample) (items : List Sample) : Prop where
  fault : s.fault = none
  queue : s.queue.queue = some items
  conserved : (Exchange.total s.exchanges).Conserves [] items
  reported : ∀ entry ∈ s.history, WellReported entry

theorem conserved_initial : Conserved (System.initial : System Sample) [] where
  fault := rfl
  queue := rfl
  conserved := Exchange.conserves_nil []
  reported := by simp [System.initial]

theorem Advance.conserves {s t : System Sample} {items left : List Sample} {action : Action Sample}
    {report : Report Sample} (advance : Advance s items action report t left) :
    report.exchange.Conserves items left := by
  rcases advance.queue with ⟨moved, _⟩ | ⟨_, silent, same, _⟩
  · exact moved.conserved
  · simp [silent, same, Exchange.Conserves]

theorem Advance.live {s t : System Sample} {items left : List Sample} {action : Action Sample}
    {report : Report Sample} (advance : Advance s items action report t left)
    (live : s.queue.queue = some items) : t.queue.queue = some left := by
  rcases advance.queue with ⟨moved, _⟩ | ⟨_, _, same, reset⟩
  · exact moved.queue
  · rw [reset, same]
    exact live

theorem conserved_step {s t : System Sample} {items : List Sample} {action : Action Sample}
    (before : Conserved s items) (h : step s action = some t) : ∃ left, Conserved t left := by
  obtain ⟨report, left, advance⟩ := step_advance before.queue before.fault h
  have exchanges : t.exchanges = s.exchanges ++ [report.exchange] := by
    simp [System.exchanges, advance.history]
  refine ⟨left, advance.fault, advance.live before.queue, ?_, ?_⟩
  · rw [exchanges]
    exact Exchange.conserves_append [] items left s.exchanges report.exchange before.conserved
      advance.conserves
  · intro entry member
    rw [advance.history] at member
    rcases List.mem_append.mp member with earlier | last
    · exact before.reported entry earlier
    · rw [List.mem_singleton.mp last]
      exact advance.reported

/-- In every run of critical sections the samples accepted are the samples removed followed by
    the contents: no sample is lost, duplicated or reordered. -/
theorem fifo_conservation (actions : List (Action Sample)) (final : System Sample)
    (run : exec step System.initial actions = some final) :
    final.fault = none ∧ (∀ entry ∈ final.history, WellReported entry) ∧
      ∃ items, final.queue.queue = some items ∧ final.accepted = final.removed ++ items := by
  have invariant : ∃ items, Conserved final items :=
    exec_invariant (fun s action t before h => conserved_step before.choose_spec h)
      ⟨[], conserved_initial⟩ run
  obtain ⟨items, holds⟩ := invariant
  refine ⟨holds.fault, holds.reported, items, holds.queue, ?_⟩
  simpa [Exchange.Conserves, System.accepted, System.removed] using holds.conserved

def interruptedBatchRun : List (Action Nat) :=
  [.take 0 none, .putAll 1 [7, 8, 9] (fun _ => true) (fun i => i != 1), .wake 0 .zero]

theorem fifo_conservation_batch :
    ∃ final, exec step System.initial interruptedBatchRun = some final ∧
      final.accepted = [7, 9] ∧ final.removed = [7] ∧
      ∃ items, final.queue.queue = some items ∧ final.accepted = final.removed ++ items :=
  ⟨_, rfl, by decide, by decide, (fifo_conservation interruptedBatchRun _ rfl).2.2⟩

end Celix.SampleQueue
