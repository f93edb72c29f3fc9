import Demonstrator.Celix.Processor.Receive
import Demonstrator.Locking.ReadWriteLock
import Mathlib.Logic.Function.Basic

namespace Celix.Processor

open Locking

/-- How far the tracker is with a sample queue: in `processor_queueServiceAdded` before `added`, in
    `processor_queueServiceRemoved` before `removed`. -/
inductive QueueCall where
  | absent
  | adding
  | addLocked
  | created (data : Nat)
  | put
  | added
  | removing
  | removeLocked
  | joining (data : Nat)
  | joined (data : Nat)
  | erased
  | removed
  deriving DecidableEq, Repr

inductive DataStoreCall where
  | absent
  | adding
  | addLocked
  | listed
  | added
  | removing
  | removeLocked
  | delisted
  | removed
  deriving DecidableEq, Repr

/-- A thread that has not been joined, with the address of its data. -/
structure Worker (QueueService DataStoreService : Type) where
  data : Nat
  position : Position QueueService DataStoreService

structure System (QueueService DataStoreService : Type) where
  memory : Nat → Option (ThreadData QueueService)
  workers : Nat → Option (Worker QueueService DataStoreService)
  queueServices : QueueService → Option Nat
  queueLock : ReadWriteLock Nat QueueService
  dataStoreServices : List DataStoreService
  dataStoreLock : ReadWriteLock Nat DataStoreService
  queueCalls : QueueService → QueueCall
  dataStoreCalls : DataStoreService → DataStoreCall

inductive Action (QueueService DataStoreService : Type) where
  | queueCall (service : QueueService) (data thread : Nat)
  | dataStoreCall (service : DataStoreService)
  | beginStatsValue (caller : Nat)
  | endStatsValue (caller : Nat)
  | worker (thread : Nat) (choice : Choice)

variable {QueueService DataStoreService : Type}

def System.initial : System QueueService DataStoreService where
  memory _ := none
  workers _ := none
  queueServices _ := none
  queueLock := .free
  dataStoreServices := []
  dataStoreLock := .free
  queueCalls _ := .absent
  dataStoreCalls _ := .absent

section Queues

variable [DecidableEq QueueService]

def System.queueAt (s : System QueueService DataStoreService) (service : QueueService) (call : QueueCall) :
    System QueueService DataStoreService :=
  { s with queueCalls := Function.update s.queueCalls service call }

/-- `calloc` and `pthread_create`: an address that is not allocated, an id that no unjoined thread has. -/
def System.create (s : System QueueService DataStoreService) (service : QueueService) (data thread : Nat) :
    Option (System QueueService DataStoreService) :=
  if s.memory data = none ∧ (s.workers thread).isNone then
    some { s.queueAt service (.created data) with
      memory := Function.update s.memory data (some ⟨thread, false, some service, 0, 0⟩)
      workers := Function.update s.workers thread (some ⟨data, .entry⟩) }
  else none

def System.clearRunning (s : System QueueService DataStoreService) (service : QueueService) :
    Option (System QueueService DataStoreService) :=
  (s.queueServices service).bind fun address =>
    (s.memory address).map fun data =>
      { s.queueAt service (.joining address) with
        memory := Function.update s.memory address (some { data with running := false }) }

def System.join (s : System QueueService DataStoreService) (service : QueueService) (address : Nat) :
    Option (System QueueService DataStoreService) :=
  (s.memory address).bind fun data =>
    (s.workers data.thread).bind fun worker =>
      match worker.position with
      | .finished =>
        some { s.queueAt service (.joined address) with workers := Function.update s.workers data.thread none }
      | _ => none

/-- The next step of `processor_queueServiceAdded` or `processor_queueServiceRemoved`. Each service is added
    once and removed once afterwards. -/
def System.queueCall (s : System QueueService DataStoreService) (service : QueueService) (data thread : Nat) :
    Option (System QueueService DataStoreService) :=
  match s.queueCalls service with
  | .absent => some (s.queueAt service .adding)
  | .adding =>
    (s.queueLock.acquireWrite service).map fun queueLock => { s.queueAt service .addLocked with queueLock }
  | .addLocked => s.create service data thread
  | .created address =>
    some { s.queueAt service .put with queueServices := Function.update s.queueServices service (some address) }
  | .put => (s.queueLock.releaseWrite service).map fun queueLock => { s.queueAt service .added with queueLock }
  | .added => some (s.queueAt service .removing)
  | .removing =>
    (s.queueLock.acquireWrite service).map fun queueLock => { s.queueAt service .removeLocked with queueLock }
  | .removeLocked => s.clearRunning service
  | .joining address => s.join service address
  | .joined address =>
    some { s.queueAt service .erased with
      queueServices := Function.update s.queueServices service none
      memory := Function.update s.memory address none }
  | .erased => (s.queueLock.releaseWrite service).map fun queueLock => { s.queueAt service .removed with queueLock }
  | .removed => none

end Queues

section DataStores

variable [DecidableEq DataStoreService]

def System.dataStoreAt (s : System QueueService DataStoreService) (service : DataStoreService)
    (call : DataStoreCall) : System QueueService DataStoreService :=
  { s with dataStoreCalls := Function.update s.dataStoreCalls service call }

def System.dataStoreCall (s : System QueueService DataStoreService) (service : DataStoreService) :
    Option (System QueueService DataStoreService) :=
  match s.dataStoreCalls service with
  | .absent => some (s.dataStoreAt service .adding)
  | .adding =>
    (s.dataStoreLock.acquireWrite service).map fun dataStoreLock =>
      { s.dataStoreAt service .addLocked with dataStoreLock }
  | .addLocked =>
    some { s.dataStoreAt service .listed with dataStoreServices := s.dataStoreServices ++ [service] }
  | .listed =>
    (s.dataStoreLock.releaseWrite service).map fun dataStoreLock =>
      { s.dataStoreAt service .added with dataStoreLock }
  | .added => some (s.dataStoreAt service .removing)
  | .removing =>
    (s.dataStoreLock.acquireWrite service).map fun dataStoreLock =>
      { s.dataStoreAt service .removeLocked with dataStoreLock }
  | .removeLocked =>
    some { s.dataStoreAt service .delisted with dataStoreServices := s.dataStoreServices.erase service }
  | .delisted =>
    (s.dataStoreLock.releaseWrite service).map fun dataStoreLock =>
      { s.dataStoreAt service .removed with dataStoreLock }
  | .removed => none

end DataStores

def LockUse.apply {Writer : Type} (use : LockUse) (lock : ReadWriteLock Nat Writer) (thread : Nat) :
    Option (ReadWriteLock Nat Writer) :=
  match use with
  | .keep => some lock
  | .acquireRead => lock.acquireRead thread
  | .releaseRead => lock.releaseRead thread

def System.work (rates : Rates) (s : System QueueService DataStoreService) (thread : Nat) (choice : Choice) :
    Option (System QueueService DataStoreService) :=
  (s.workers thread).bind fun worker =>
    (s.memory worker.data).bind fun data =>
      (worker.position.move rates data s.dataStoreServices choice).bind fun effect =>
        (effect.lock.apply s.dataStoreLock thread).map fun dataStoreLock =>
          { s with
            memory := Function.update s.memory worker.data (some effect.data)
            workers := Function.update s.workers thread (some ⟨worker.data, effect.position⟩)
            dataStoreLock }

theorem work_some {rates : Rates} {s t : System QueueService DataStoreService} {thread : Nat} {choice : Choice}
    (taken : s.work rates thread choice = some t) :
    ∃ worker data effect lock, s.workers thread = some worker ∧ s.memory worker.data = some data ∧
      worker.position.Follows data s.dataStoreServices effect ∧
      effect.lock.apply s.dataStoreLock thread = some lock ∧
      t = { s with
        memory := Function.update s.memory worker.data (some effect.data)
        workers := Function.update s.workers thread (some ⟨worker.data, effect.position⟩)
        dataStoreLock := lock } := by
  obtain ⟨worker, running, own⟩ := Option.bind_eq_some_iff.mp taken
  obtain ⟨data, found, moved⟩ := Option.bind_eq_some_iff.mp own
  obtain ⟨effect, move, locked⟩ := Option.bind_eq_some_iff.mp moved
  obtain ⟨lock, use, rfl⟩ := Option.map_eq_some_iff.mp locked
  exact ⟨worker, data, effect, lock, running, found, Position.move_follows move, use, rfl⟩

/-- The callers of `processor_getUtilizationStatsValue` only read, under the queue lock. -/
def System.step [DecidableEq QueueService] [DecidableEq DataStoreService] (rates : Rates)
    (s : System QueueService DataStoreService) :
    Action QueueService DataStoreService → Option (System QueueService DataStoreService)
  | .queueCall service data thread => s.queueCall service data thread
  | .dataStoreCall service => s.dataStoreCall service
  | .beginStatsValue caller => (s.queueLock.acquireRead caller).map fun queueLock => { s with queueLock }
  | .endStatsValue caller => (s.queueLock.releaseRead caller).map fun queueLock => { s with queueLock }
  | .worker thread choice => s.work rates thread choice

end Celix.Processor
