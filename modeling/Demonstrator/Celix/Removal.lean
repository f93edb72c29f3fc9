import Demonstrator.Celix.Processor.Removal
import Demonstrator.Celix.StatisticTracker.References
import Demonstrator.Transition.Runs

namespace Celix.Removal

open Transition

structure Bundles (QueueService DataStoreService StatService : Type) where
  processor : Processor.System QueueService DataStoreService
  tracker : StatisticTracker.System StatService

inductive Action (QueueService DataStoreService StatService : Type) where
  | processor (action : Processor.Action QueueService DataStoreService)
  | tracker (action : StatisticTracker.Action StatService)

inductive Call (QueueService DataStoreService StatService : Type) where
  | processor (invocation : Processor.Invocation QueueService DataStoreService)
  | tracker (service : StatService) (function : StatisticTracker.StatFunction)

section Runs

variable {QueueService DataStoreService StatService : Type}

def Bundles.initial : Bundles QueueService DataStoreService StatService := ⟨.initial, .initial⟩

def Bundles.invocation (s : Bundles QueueService DataStoreService StatService) :
    Action QueueService DataStoreService StatService → Option (Call QueueService DataStoreService StatService)
  | .processor action => (s.processor.invocation action).map .processor
  | .tracker action => (s.tracker.invocation action).map fun (service, function) => .tracker service function

/-- `processor_queueServiceRemoved`, `processor_dataStoreServiceRemoved` or `statistic_tracker_statServiceRemoved`
    has returned for the service. -/
def Bundles.Removed (s : Bundles QueueService DataStoreService StatService) :
    Call QueueService DataStoreService StatService → Prop
  | .processor invocation => s.processor.Removed invocation
  | .tracker service _ => ∃ success, s.tracker.calls service = .removed success

variable [DecidableEq QueueService] [DecidableEq DataStoreService] [DecidableEq StatService]

def step (rates : Processor.Rates) (s : Bundles QueueService DataStoreService StatService) :
    Action QueueService DataStoreService StatService → Option (Bundles QueueService DataStoreService StatService)
  | .processor action => (s.processor.step rates action).map fun processor => { s with processor }
  | .tracker action => (s.tracker.step action).map fun tracker => { s with tracker }

structure References (s : Bundles QueueService DataStoreService StatService) : Prop where
  processor : Processor.References s.processor
  tracker : StatisticTracker.References s.tracker

theorem references_step {rates : Processor.Rates} {s t : Bundles QueueService DataStoreService StatService}
    {action : Action QueueService DataStoreService StatService} (refs : References s)
    (taken : step rates s action = some t) : References t := by
  cases action with
  | processor action =>
    obtain ⟨processor, moved, rfl⟩ := Option.map_eq_some_iff.mp taken
    exact ⟨Processor.references_step refs.processor moved, refs.tracker⟩
  | tracker action =>
    obtain ⟨tracker, moved, rfl⟩ := Option.map_eq_some_iff.mp taken
    exact ⟨refs.processor, StatisticTracker.references_step refs.tracker moved⟩

/-- In every state of every run, no step of a worker calls a function of a service whose removal has returned. -/
theorem no_call_after_removal (rates : Processor.Rates)
    (actions : List (Action QueueService DataStoreService StatService))
    (s : Bundles QueueService DataStoreService StatService)
    (run : exec (step rates) Bundles.initial actions = some s)
    (action : Action QueueService DataStoreService StatService)
    (call : Call QueueService DataStoreService StatService) (calls : s.invocation action = some call) :
    ¬ s.Removed call := by
  have start : References (Bundles.initial : Bundles QueueService DataStoreService StatService) :=
    ⟨Processor.references_initial, StatisticTracker.references_initial⟩
  have refs : References s := exec_invariant (fun _ _ _ refs taken => references_step refs taken) start run
  cases action with
  | processor action =>
    obtain ⟨invocation, invoked, rfl⟩ := Option.map_eq_some_iff.mp calls
    exact refs.processor.not_removed invoked
  | tracker action =>
    obtain ⟨⟨service, function⟩, invoked, rfl⟩ := Option.map_eq_some_iff.mp calls
    intro removed
    obtain ⟨success, returned⟩ := removed
    exact refs.tracker.not_removed invoked success returned

end Runs

def replacement : List (Action Nat Nat Nat) :=
  let next (service : Nat) : Action Nat Nat Nat := .processor (.queueCall service 7 1)
  let work : Action Nat Nat Nat := .processor (.worker 1 ⟨false, none, true⟩)
  List.replicate 5 (next 0) ++ [work] ++ List.replicate 3 (next 0) ++ [work] ++ List.replicate 3 (next 0) ++
    List.replicate 5 (next 1) ++ List.replicate 4 work

theorem no_call_after_removal_replacement :
    ∃ s, exec (step Processor.rates) Bundles.initial replacement = some s ∧
      s.processor.queueCalls 0 = .removed ∧
      s.invocation (.processor (.worker 1 ⟨false, none, true⟩)) = some (.processor (.queue 1 .takeAll)) ∧
      ¬ s.Removed (.processor (.queue 1 .takeAll)) :=
  ⟨_, rfl, rfl, rfl, no_call_after_removal Processor.rates replacement _ rfl
    (.processor (.worker 1 ⟨false, none, true⟩)) _ rfl⟩

end Celix.Removal
