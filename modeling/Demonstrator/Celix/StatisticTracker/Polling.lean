import Demonstrator.Locking.ReadWriteLock
import Mathlib.Data.List.AList
import Mathlib.Logic.Function.Basic

namespace Celix.StatisticTracker

open Locking

inductive StatFunction where
  | getName
  | getType
  | getValue
  | getMeasurementUnit
  deriving DecidableEq, Repr

inductive Position (StatService : Type) where
  | entry
  | test (success : Bool)
  | locking
  | lookUp
  | calling (statService : StatService) (function : StatFunction)
  | inCall (statService : StatService) (function : StatFunction)
  | unlocking (success : Bool)
  | finished
  deriving DecidableEq, Repr

/-- How far the framework is with a service: in `statistic_tracker_statServiceAdded` before `added`, in
    `statistic_tracker_statServiceRemoved` before `removed`. -/
inductive StatCall where
  | absent
  | asking
  | adding
  | addLocked
  | created (thread : Nat)
  | put
  | added
  | removing
  | removeLocked
  | unlinked (thread : Option Nat)
  | joining (thread : Nat)
  | removed (success : Bool)
  deriving DecidableEq, Repr

structure System (StatService : Type) where
  statServices : AList fun _ : Nat => StatService
  statLock : ReadWriteLock Nat StatService
  running : Bool
  pollers : Nat → Option (Position StatService)
  calls : StatService → StatCall

inductive Action (StatService : Type) where
  | call (service : StatService) (thread : Nat) (named : Bool)
  | stop
  | poller (thread : Nat)

variable {StatService : Type}

def System.initial : System StatService where
  statServices := ∅
  statLock := .free
  running := false
  pollers _ := none
  calls _ := .absent

section Calls

variable [DecidableEq StatService]

def System.at (s : System StatService) (service : StatService) (call : StatCall) : System StatService :=
  { s with calls := Function.update s.calls service call }

def System.unlink (s : System StatService) (service : StatService) : System StatService :=
  match s.statServices.entries.find? fun entry => entry.2 = service with
  | some entry => { s.at service (.unlinked (some entry.1)) with statServices := s.statServices.erase entry.1 }
  | none => s.at service (.unlinked none)

/-- The next step of `statistic_tracker_statServiceAdded` or `statistic_tracker_statServiceRemoved`; `named` says
    whether the service gave its name, `thread` is the id from `pthread_create`, which no unjoined thread has. -/
def System.call (s : System StatService) (service : StatService) (thread : Nat) (named : Bool) :
    Option (System StatService) :=
  match s.calls service with
  | .absent => some (s.at service .asking)
  | .asking => some (s.at service (if named then .adding else .added))
  | .adding => (s.statLock.acquireWrite service).map fun statLock => { s.at service .addLocked with statLock }
  | .addLocked =>
    if (s.pollers thread).isNone then
      some { s.at service (.created thread) with pollers := Function.update s.pollers thread (some .entry) }
    else none
  | .created thread => some { s.at service .put with statServices := s.statServices.insert thread service }
  | .put => (s.statLock.releaseWrite service).map fun statLock => { s.at service .added with statLock }
  | .added => some (s.at service .removing)
  | .removing => (s.statLock.acquireWrite service).map fun statLock => { s.at service .removeLocked with statLock }
  | .removeLocked => some (s.unlink service)
  | .unlinked none => (s.statLock.releaseWrite service).map fun statLock => { s.at service (.removed false) with statLock }
  | .unlinked (some thread) =>
    (s.statLock.releaseWrite service).map fun statLock => { s.at service (.joining thread) with statLock }
  | .joining thread =>
    match s.pollers thread with
    | some .finished =>
      some { s.at service (.removed true) with pollers := Function.update s.pollers thread none }
    | _ => none
  | .removed _ => none

end Calls

def StatFunction.next : StatFunction → Option StatFunction
  | .getName => some .getType
  | .getType => some .getValue
  | .getValue => some .getMeasurementUnit
  | .getMeasurementUnit => none

def System.move (s : System StatService) (thread : Nat) (position : Position StatService) : System StatService :=
  { s with pollers := Function.update s.pollers thread (some position) }

def System.poll (s : System StatService) (thread : Nat) : Option (System StatService) :=
  (s.pollers thread).bind fun position =>
    match position with
    | .entry => some { s.move thread (.test true) with running := true }
    | .test success => some (s.move thread (if s.running ∧ success then .locking else .finished))
    | .locking => (s.statLock.acquireRead thread).map fun statLock => { s.move thread .lookUp with statLock }
    | .lookUp =>
      match s.statServices.lookup thread with
      | some statService => some (s.move thread (.calling statService .getName))
      | none => some (s.move thread (.unlocking false))
    | .calling statService function => some (s.move thread (.inCall statService function))
    | .inCall statService function =>
      match function.next with
      | some later => some (s.move thread (.calling statService later))
      | none => some (s.move thread (.unlocking true))
    | .unlocking success =>
      (s.statLock.releaseRead thread).map fun statLock => { s.move thread (.test success) with statLock }
    | .finished => none

def System.step [DecidableEq StatService] (s : System StatService) : Action StatService → Option (System StatService)
  | .call service thread named => s.call service thread named
  | .stop => some { s with running := false }
  | .poller thread => s.poll thread

end Celix.StatisticTracker
