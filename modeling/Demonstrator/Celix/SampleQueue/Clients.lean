import Demonstrator.Transition.Runs
import Demonstrator.Transition.Exchange
import Demonstrator.Celix.SampleQueue.Sections

namespace Celix.SampleQueue

open Transition

variable {Sample : Type}

inductive Call (Sample : Type) where
  | take (out : Option Sample)
  | takeAll (min max : Nat)
  deriving DecidableEq, Repr

inductive Action (Sample : Type) where
  | put (client : Nat) (sample : Sample) (calloc add : Bool)
  | putAll (client : Nat) (samples : List Sample) (calloc add : Nat → Bool)
  | take (client : Nat) (out : Option Sample)
  | takeAll (client min max : Nat)
  | wake (client : Nat) (rc : WaitCode)
  | printStatistics

inductive Report (Sample : Type) where
  | put (sample : Sample) (sampleTaken : Bool) (status : Status)
  | putAll (appended : List Sample) (samplesTaken : Nat) (status : Status)
  | waits
  | take (removed : List Sample) (out : Option Sample) (status : Status)
  | takeAll (removed : List Sample) (status : Status)
  | statistics (printed : Statistics)

def Report.exchange : Report Sample → Exchange Sample
  | .put sample sampleTaken _ => ⟨if sampleTaken then [sample] else [], []⟩
  | .putAll appended _ _ => ⟨appended, []⟩
  | .waits => ⟨[], []⟩
  | .take removed _ _ => ⟨[], removed⟩
  | .takeAll removed _ => ⟨[], removed⟩
  | .statistics _ => ⟨[], []⟩

structure System (Sample : Type) where
  queue : SampleQueue Sample
  blocked : Nat → Option (Call Sample)
  history : List (Action Sample × Report Sample)
  fault : Option Fault

def System.initial : System Sample := ⟨.create, fun _ => none, [], none⟩

def System.exchanges (s : System Sample) : List (Exchange Sample) :=
  s.history.map fun entry => entry.2.exchange

def System.record (s : System Sample) (action : Action Sample) (queue : SampleQueue Sample)
    (report : Report Sample) : System Sample :=
  { s with queue := queue, history := s.history ++ [(action, report)] }

def System.setBlocked (s : System Sample) (client : Nat) (call : Option (Call Sample)) : System Sample :=
  { s with blocked := Function.update s.blocked client call }

def System.afterTake (s : System Sample) (action : Action Sample) (client : Nat) (out : Option Sample) :
    Except Fault (Progress (TakeResult Sample)) → System Sample
  | .error fault => { s with fault := some fault }
  | .ok .waits => (s.record action s.queue .waits).setBlocked client (some (.take out))
  | .ok (.returns result) =>
    (s.record action result.queue (.take result.removed result.out result.status)).setBlocked client none

def System.afterTakeAll (s : System Sample) (action : Action Sample) (client min max : Nat) :
    Progress (TakeAllResult Sample) → System Sample
  | .waits => (s.record action s.queue .waits).setBlocked client (some (.takeAll min max))
  | .returns result =>
    (s.record action result.queue (.takeAll result.removed result.status)).setBlocked client none

/-- One critical section. A client makes one call at a time, and only a waiting call can be
    woken. Callers of `put` pass `*sampleTaken` as false and callers of `putAll` pass 0, as the
    producer does. -/
def step (s : System Sample) (action : Action Sample) : Option (System Sample) :=
  if s.fault.isSome then none
  else
    match action with
    | .put client sample calloc add =>
      if (s.blocked client).isSome then none
      else
        let result := put calloc add sample false s.queue
        some (s.record action result.1 (.put sample result.2.1 result.2.2))
    | .putAll client samples calloc add =>
      if (s.blocked client).isSome then none
      else
        let result := putAll calloc add samples 0 s.queue
        some (s.record action result.queue (.putAll result.appended result.samplesTaken result.status))
    | .take client out =>
      if (s.blocked client).isSome then none
      else some (s.afterTake action client out (takeSection .zero out s.queue))
    | .takeAll client min max =>
      if (s.blocked client).isSome then none
      else some (s.afterTakeAll action client min max (takeAllSection .zero min max s.queue))
    | .wake client rc =>
      match s.blocked client with
      | none => none
      | some (.take out) => some (s.afterTake action client out (takeSection rc out s.queue))
      | some (.takeAll min max) =>
        some (s.afterTakeAll action client min max (takeAllSection rc min max s.queue))
    | .printStatistics =>
      match printStatistics s.queue with
      | .error fault => some { s with fault := some fault }
      | .ok (queue, printed) => some (s.record action queue (.statistics printed))

end Celix.SampleQueue
