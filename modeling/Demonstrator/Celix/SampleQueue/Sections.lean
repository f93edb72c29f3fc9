import Mathlib.Data.Rat.Defs
import Mathlib.Data.List.Basic

namespace Celix

inductive Status where
  | success
  | illegalState
  | enomem
  | bundleException
  deriving DecidableEq, Repr

inductive WaitCode where
  | zero
  | etimedout
  | error
  deriving DecidableEq, Repr

inductive Fault where
  | nullList
  | badAddress
  deriving DecidableEq, Repr

def MAX_QUEUE_SIZE : Nat := 10000

/-- `struct sample_queue` without its names, locks and statistics thread. The
    list pointer is `none` once it is NULL. -/
structure SampleQueue (Sample : Type) where
  queue : Option (List Sample)
  takeCnt : Int
  putCnt : Int
  currentQueueSize : Int
  maxQueueSize : Int
  deriving DecidableEq, Repr

variable {Sample : Type}

def arrayListSize : Option (List Sample) → Except Fault Nat
  | none => .error .nullList
  | some items => .ok items.length

inductive Progress (Result : Type) where
  | waits
  | returns (result : Result)
  deriving DecidableEq, Repr

namespace SampleQueue

def create : SampleQueue Sample where
  queue := some []
  takeCnt := 0
  putCnt := 0
  currentQueueSize := 0
  maxQueueSize := MAX_QUEUE_SIZE

def HasRoom (items : List Sample) : Prop := MAX_QUEUE_SIZE = 0 ∨ items.length < MAX_QUEUE_SIZE

instance (items : List Sample) : Decidable (HasRoom items) :=
  inferInstanceAs (Decidable (_ ∨ _))

/-- `sampleQueue_put`. The outcomes of `calloc` and `arrayList_add` are the environment's;
    the result is the queue, `*sampleTaken` and the status. -/
def put (calloc add : Bool) (sample : Sample) (sampleTaken : Bool) (q : SampleQueue Sample) :
    SampleQueue Sample × Bool × Status :=
  match q.queue with
  | none => (q, sampleTaken, .illegalState)
  | some items =>
    if HasRoom items then
      if calloc then
        if add then
          ({ q with
              queue := some (items ++ [sample])
              putCnt := q.putCnt + 1
              currentQueueSize := q.currentQueueSize + 1 }, true, .success)
        else (q, false, .success)
      else (q, sampleTaken, .enomem)
    else (q, sampleTaken, .success)

structure PutAllLoop (Sample : Type) where
  items : List Sample
  currentQueueSize : Int
  samplesAdded : Nat
  appended : List Sample
  status : Status

/-- The `for` loop of `sampleQueue_putAll` from index `i` on; `calloc i` and `add i` are the
    outcomes of the two calls made at index `i`. -/
def putAllLoop (calloc add : Nat → Bool) (i : Nat) : List Sample → PutAllLoop Sample → PutAllLoop Sample
  | [], loop => loop
  | sample :: rest, loop =>
    if HasRoom loop.items then
      if calloc i then
        if add i then
          putAllLoop calloc add (i + 1) rest
            { loop with
              items := loop.items ++ [sample]
              currentQueueSize := loop.currentQueueSize + 1
              samplesAdded := loop.samplesAdded + 1
              appended := loop.appended ++ [sample] }
        else putAllLoop calloc add (i + 1) rest loop
      else { loop with status := .enomem }
    else loop

structure PutAllResult (Sample : Type) where
  queue : SampleQueue Sample
  samplesTaken : Nat
  status : Status
  appended : List Sample

def putAll (calloc add : Nat → Bool) (samples : List Sample) (samplesTaken : Nat)
    (q : SampleQueue Sample) : PutAllResult Sample :=
  match q.queue with
  | none => ⟨q, samplesTaken, .illegalState, []⟩
  | some items =>
    let loop := putAllLoop calloc add 0 samples ⟨items, q.currentQueueSize, 0, [], .success⟩
    { queue := { q with
        queue := some loop.items
        currentQueueSize := loop.currentQueueSize
        putCnt := q.putCnt + loop.samplesAdded }
      samplesTaken := loop.samplesAdded
      -- an ENOMEM of the loop is not masked
      status := if loop.samplesAdded ≠ samples.length ∧ loop.status = .success then .bundleException
        else loop.status
      appended := loop.appended }

structure TakeResult (Sample : Type) where
  queue : SampleQueue Sample
  out : Option Sample
  status : Status
  removed : List Sample
  deriving DecidableEq, Repr

def takeWaits (rc : WaitCode) (q : SampleQueue Sample) : Bool :=
  match q.queue with
  | none => false
  | some items => items.length == 0 && rc != .etimedout

/-- One critical section of `sampleQueue_take`, from taking the lock (`rc` is 0 at the first
    one) to releasing it. The second branch asks for the size of a list it has not tested for NULL. -/
def takeSection (rc : WaitCode) (out : Option Sample) (q : SampleQueue Sample) :
    Except Fault (Progress (TakeResult Sample)) :=
  if takeWaits rc q then .ok .waits
  else
    match rc, q.queue with
    | .zero, some (sample :: rest) =>
      .ok (.returns
        { queue := { q with
            queue := some rest
            takeCnt := q.takeCnt + 1
            currentQueueSize := q.currentQueueSize - 1 }
          out := some sample
          status := .success
          removed := [sample] })
    | _, list =>
      match arrayListSize list with
      | .error fault => .error fault
      | .ok size =>
        if size = 0 then .ok (.returns ⟨q, none, .success, []⟩)
        else .ok (.returns ⟨q, out, .illegalState, []⟩)

structure TakeAllResult (Sample : Type) where
  queue : SampleQueue Sample
  status : Status
  removed : List Sample
  deriving DecidableEq, Repr

def takeAllWaits (rc : WaitCode) (min : Nat) (q : SampleQueue Sample) : Bool :=
  match q.queue with
  | none => false
  | some items => decide (items.length < min) && rc != .etimedout

def takeAllLoop : Nat → List Sample → List Sample × List Sample
  | 0, items => ([], items)
  | _ + 1, [] => ([], [])
  | left + 1, sample :: rest =>
    let later := takeAllLoop left rest
    (sample :: later.1, later.2)

/-- One critical section of `sampleQueue_takeAll`. The counter updates at the end also run
    after a timeout or a removal, with `i = 0`. -/
def takeAllSection (rc : WaitCode) (min max : Nat) (q : SampleQueue Sample) :
    Progress (TakeAllResult Sample) :=
  if takeAllWaits rc min q then .waits
  else
    match rc, q.queue with
    | .zero, some items =>
      let loop := takeAllLoop max items
      .returns
        { queue := { q with
            queue := some loop.2
            takeCnt := q.takeCnt + loop.1.length
            currentQueueSize := q.currentQueueSize - loop.1.length }
          status := .success
          removed := loop.1 }
    | _, _ => .returns ⟨q, .illegalState, []⟩

structure Statistics where
  putCnt : Int
  takeCnt : Int
  size : Nat
  deriving DecidableEq, Repr

def printStatistics (q : SampleQueue Sample) : Except Fault (SampleQueue Sample × Statistics) :=
  match arrayListSize q.queue with
  | .error fault => .error fault
  | .ok size => .ok ({ q with putCnt := 0, takeCnt := 0 }, ⟨q.putCnt, q.takeCnt, size⟩)

def getUtilizationStatsValue (q : SampleQueue Sample) : ℚ :=
  (q.currentQueueSize : ℚ) / (q.maxQueueSize : ℚ) * 100

end SampleQueue

end Celix
