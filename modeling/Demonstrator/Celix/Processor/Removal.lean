import Demonstrator.Celix.Processor.QueueReferences
import Demonstrator.Celix.Processor.StoreReferences

namespace Celix.Processor

variable {QueueService DataStoreService : Type} {s t : System QueueService DataStoreService} {rates : Rates}

inductive QueueFunction where
  | take
  | takeAll
  deriving DecidableEq, Repr

def Routine.function : Routine → QueueFunction
  | .receiveSamples => .take
  | .receiveBursts => .takeAll

/-- The function of a service that a worker is about to call. -/
inductive Invocation (QueueService DataStoreService : Type) where
  | queue (service : QueueService) (function : QueueFunction)
  | store (service : DataStoreService)
  deriving DecidableEq, Repr

def Position.invocation : Position QueueService DataStoreService → Option (Invocation QueueService DataStoreService)
  | .calling frame => frame.queueService.map fun service => .queue service frame.routine.function
  | .storing _ _ dsService => some (.store dsService)
  | _ => none

def System.invocation (s : System QueueService DataStoreService) :
    Action QueueService DataStoreService → Option (Invocation QueueService DataStoreService)
  | .worker thread _ => (s.workers thread).bind fun worker => worker.position.invocation
  | _ => none

def System.Removed (s : System QueueService DataStoreService) : Invocation QueueService DataStoreService → Prop
  | .queue service _ => s.queueCalls service = .removed
  | .store service => s.dataStoreCalls service = .removed

structure References (s : System QueueService DataStoreService) : Prop where
  queues : QueueReferences s
  stores : StoreReferences s

theorem references_initial : References (System.initial : System QueueService DataStoreService) where
  queues := by
    refine ⟨?_, ?_, ?_⟩
    · intro thread worker running
      cases running
    · simp [System.initial, Serves, QueueCall.data]
    · intro service address joined
      cases joined
  stores := by
    refine ⟨?_, ?_, List.nodup_nil, ?_, ?_⟩
    · intro thread sending
      obtain ⟨worker, running, _⟩ := sending
      cases running
    · intro store locked
      cases locked
    · intro store member
      cases member
    · intro thread worker store running
      cases running

theorem references_step [DecidableEq QueueService] [DecidableEq DataStoreService] (refs : References s)
    {action : Action QueueService DataStoreService} (taken : s.step rates action = some t) : References t := by
  cases action with
  | queueCall service data thread => exact ⟨refs.queues.queueCall taken, refs.stores.queueCall taken⟩
  | dataStoreCall service => exact ⟨refs.queues.dataStoreCall taken, refs.stores.dataStoreCall taken⟩
  | beginStatsValue caller =>
    obtain ⟨lock, _, rfl⟩ := Option.map_eq_some_iff.mp taken
    exact ⟨⟨refs.queues.worker, refs.queues.serves, refs.queues.joined⟩,
      refs.stores.threads rfl rfl rfl fun _ _ running _ => running⟩
  | endStatsValue caller =>
    obtain ⟨lock, _, rfl⟩ := Option.map_eq_some_iff.mp taken
    exact ⟨⟨refs.queues.worker, refs.queues.serves, refs.queues.joined⟩,
      refs.stores.threads rfl rfl rfl fun _ _ running _ => running⟩
  | worker thread choice => exact ⟨refs.queues.work taken, refs.stores.work taken⟩

theorem QueueReferences.not_removed (refs : QueueReferences s) {thread : Nat} {queue : QueueService}
    {worker : Worker QueueService DataStoreService} (running : s.workers thread = some worker)
    (refers : worker.position.queueService = some queue) : s.queueCalls queue ≠ .removed := by
  intro removed
  obtain ⟨data, allocated, _, fetched⟩ := refs.worker thread worker running
  have serves : Serves s.memory queue worker.data := ⟨data, allocated, fetched queue refers⟩
  rw [refs.serves, removed] at serves
  cases serves

theorem StoreReferences.not_removed (refs : StoreReferences s) {thread : Nat} {store : DataStoreService}
    {worker : Worker QueueService DataStoreService} (running : s.workers thread = some worker)
    (refers : worker.position.dsService = some store) : s.dataStoreCalls store ≠ .removed := by
  intro removed
  have known := refs.listed store (refs.fetched thread worker store running refers)
  rw [removed] at known
  exact known

theorem References.not_removed (refs : References s) {action : Action QueueService DataStoreService}
    {invocation : Invocation QueueService DataStoreService} (calls : s.invocation action = some invocation) :
    ¬ s.Removed invocation := by
  cases action with
  | worker thread choice =>
    obtain ⟨worker, running, called⟩ := Option.bind_eq_some_iff.mp calls
    cases at' : worker.position with
    | calling frame =>
      rw [at'] at called
      obtain ⟨service, fetched, rfl⟩ := Option.map_eq_some_iff.mp called
      apply refs.queues.not_removed running
      rw [at']
      exact fetched
    | storing batch index dsService =>
      rw [at'] at called
      cases called
      apply refs.stores.not_removed running
      rw [at']
      rfl
    | _ =>
      rw [at'] at called
      cases called
  | _ => cases calls

end Celix.Processor
