import Demonstrator.Celix.Processor.Forwarding
import Demonstrator.Transition.Simulation

namespace Celix.ProcessorRounds

open Processor (Choice Frame LockUse Rates Routine ThreadData)
open Arithmetic Transition
open ProducerRounds (Timespec)

variable {QueueService DataStoreService : Type}

structure Thread (QueueService DataStoreService : Type) where
  position : Processor.Position QueueService DataStoreService
  data : ThreadData QueueService
  readLock : Bool

-- a thread does not take the lock twice, and only releases what it has
def lockAfter (readLock : Bool) : LockUse → Option Bool
  | .keep => some readLock
  | .acquireRead => if readLock then none else some true
  | .releaseRead => if readLock then some false else none

def Thread.step (rates : Rates) (thread : Thread QueueService DataStoreService)
    (input : Choice × List DataStoreService) : Option (Thread QueueService DataStoreService) := do
  let effect ← thread.position.move rates thread.data input.2 input.1
  let readLock ← lockAfter thread.readLock effect.lock
  return ⟨effect.position, effect.data, readLock⟩

def Period.step (service : Bool) (period : Period DataStoreService) (input : List DataStoreService × Event) :
    Option (Period DataStoreService) :=
  period.move service input.1 input.2

def Period.frame (queueService : Option QueueService) (period : Period DataStoreService) : Frame QueueService where
  routine := period.routine
  queueService := queueService
  count := period.received.length - period.position.uncounted
  success := period.success

def Period.place (queueService : Option QueueService) (period : Period DataStoreService) :
    Processor.Position QueueService DataStoreService :=
  match period.position with
  | .test | .freed => .loop (period.frame queueService)
  | .processing left j => .processing ⟨period.frame queueService, j + left.length, left.length⟩
  | .sending left j _ i => .sending ⟨period.frame queueService, j + 1 + left.length, left.length + 1⟩ i

structure Period.Exact (rates : Rates) (period : Period DataStoreService) : Prop where
  counted : period.sampleCnt.toInt + period.position.uncounted = period.received.length
  nonneg : 0 ≤ period.sampleCnt.toInt
  fits : period.received.length < 2 ^ 31
  rate : period.samplesPerSec.toInt = rates.samplesPerSec period.routine

-- the place of a period, with the lock while it is in `processor_sendResult`
def Period.thread (data : ThreadData QueueService) (period : Period DataStoreService) :
    Thread QueueService DataStoreService :=
  ⟨period.place data.service, data, period.InSendResult⟩

def Sees (stores : List DataStoreService) (choices : List (Choice × List DataStoreService)) : Prop :=
  ∀ choice ∈ choices, choice.2 = stores

theorem sees_nil (stores : List DataStoreService) : Sees stores [] := fun _ member => absurd member List.not_mem_nil

theorem Sees.cons {stores : List DataStoreService} {choices : List (Choice × List DataStoreService)}
    (sees : Sees stores choices) (choice : Choice) : Sees stores ((choice, stores) :: choices) :=
  List.forall_mem_cons.mpr ⟨rfl, sees⟩

section Steps

variable {rates : Rates} {data : ThreadData QueueService} {stores : List DataStoreService}
  {period : Period DataStoreService}

theorem Period.Exact.count (exact : period.Exact rates) (queueService : Option QueueService) :
    ((period.frame queueService).count : Int) = period.sampleCnt.toInt := by
  have counted := exact.counted
  have nonneg := exact.nonneg
  change ((period.received.length - period.position.uncounted : Nat) : Int) = _
  omega

theorem Period.Exact.receive (exact : period.Exact rates)
    (bounded : rates.samplesPerSec period.routine + MAX_BURST_LEN ≤ 2 ^ 31) (atTest : period.position = .test)
    (below : period.sampleCnt < period.samplesPerSec) {samples : List Sample} (few : samples.length ≤ MAX_BURST_LEN)
    (success : Bool) : ({ period with success }.receive samples).Exact rates := by
  have counted := exact.counted
  have less := Int32.lt_iff_toInt_lt.mp below
  rw [exact.rate] at less
  rw [atTest, Position.uncounted] at counted
  refine ⟨?_, exact.nonneg, ?_, exact.rate⟩
  · simp only [Period.receive, Position.uncounted, List.length_append]
    omega
  · simp only [Period.receive, List.length_append]
    omega

theorem Period.Exact.go (exact : period.Exact rates) {position : Position}
    (same : position.uncounted = period.position.uncounted) (tsDiff : Timespec) (success : Bool)
    (sends : List (Send DataStoreService)) (calls : List (StoreCall DataStoreService)) (readings : List Timespec) :
    Period.Exact rates { period with position, tsDiff, success, sends, calls, readings } := by
  refine ⟨?_, exact.nonneg, exact.fits, exact.rate⟩
  change period.sampleCnt.toInt + position.uncounted = _
  rw [same]
  exact exact.counted

theorem Period.Exact.processed (exact : period.Exact rates) {j : Nat} (atEnd : period.position = .processing [] j) :
    Period.Exact rates { period with sampleCnt := period.sampleCnt + Int32.ofNat j, position := .freed } := by
  have counted := exact.counted
  have fits := exact.fits
  have nonneg := exact.nonneg
  rw [atEnd] at counted
  simp only [Position.uncounted, List.length_nil, Nat.add_zero] at counted
  have small : (Int32.ofNat j).toInt = j := Int32.toInt_ofNat_of_lt (by omega)
  have sum : (period.sampleCnt + Int32.ofNat j).toInt = period.sampleCnt.toInt + (Int32.ofNat j).toInt := by
    apply toInt_add_of_range <;> omega
  refine ⟨?_, ?_, fits, exact.rate⟩
  · simp only [Position.uncounted, sum, small]
    omega
  · simp only [sum, small]
    omega

theorem loop_next (stores : List DataStoreService) (atTest : period.position = .test) :
    exec (Thread.step rates) (period.thread data) [(⟨false, none, true⟩, stores)] =
      some ⟨(period.frame data.service).next rates false, data, false⟩ := by
  simp [exec, Thread.step, Processor.Position.move, Period.thread, Period.place, Period.InSendResult, atTest, lockAfter]

theorem calls_queue (stores : List DataStoreService) (exact : period.Exact rates) (atTest : period.position = .test)
    (takes : period.Takes data.service.isSome) (taken : Option Nat) :
    exec (Thread.step rates) (period.thread data)
      [(⟨false, none, true⟩, stores), (⟨false, none, true⟩, stores), (⟨false, taken, true⟩, stores)] =
      some ⟨(period.frame data.service).returned taken, data, false⟩ := by
  obtain ⟨queueService, found⟩ := Option.isSome_iff_exists.mp takes.2
  have below : (period.frame data.service).count < rates.samplesPerSec (period.frame data.service).routine := by
    have less := Int32.lt_iff_toInt_lt.mp takes.1
    have count := exact.count data.service
    rw [exact.rate] at less
    change _ < rates.samplesPerSec period.routine
    omega
  have calling : (period.frame data.service).next rates false =
      (.calling (period.frame data.service) : Processor.Position QueueService DataStoreService) := by
    rw [Frame.next, if_neg (by simp), if_pos below]
    simp [Period.frame, found]
  simp [exec, Thread.step, Processor.Position.move, Period.thread, Period.place, Period.InSendResult, atTest, calling,
    lockAfter]

theorem thread_receive (atTest : period.position = .test) (samples : List Sample) (success : Bool) :
    ({ period with success }.receive samples).thread data =
      ⟨.processing ⟨{ period.frame data.service with success }, samples.length, samples.length⟩, data, false⟩ := by
  simp [Period.thread, Period.place, Period.frame, Period.receive, Period.InSendResult, Position.uncounted, atTest]

theorem thread_freed (atTest : period.position = .test) (success : Bool) :
    { period with success, position := .freed }.thread data =
      ⟨.loop { period.frame data.service with success }, data, false⟩ := by
  simp [Period.thread, Period.place, Period.frame, Period.InSendResult, Position.uncounted, atTest]

theorem skip_simulated (exact : period.Exact rates) (skips : ¬ period.Takes data.service.isSome) :
    (period.frame data.service).next rates false =
      (.loop { period.frame data.service with
        success := if period.sampleCnt < period.samplesPerSec then false else period.success } :
          Processor.Position QueueService DataStoreService) := by
  have count := exact.count data.service
  have below : (period.frame data.service).count < rates.samplesPerSec (period.frame data.service).routine ↔
      period.sampleCnt < period.samplesPerSec := by
    rw [Int32.lt_iff_toInt_lt, exact.rate, ← count]
    exact Int.ofNat_lt.symm
  rw [Frame.next, if_neg (by simp)]
  by_cases less : period.sampleCnt < period.samplesPerSec
  · have none : (period.frame data.service).queueService = none := by
      change data.service = none
      by_contra found
      exact skips ⟨less, Option.isSome_iff_ne_none.mpr found⟩
    rw [if_pos (below.mpr less), if_pos less]
    simp only [none]
  · rw [if_neg fun wrong => less (below.mp wrong), if_neg less]
    rfl

theorem take_simulated (stores : List DataStoreService) (exact : period.Exact rates)
    (bounded : rates.samplesPerSec period.routine + MAX_BURST_LEN ≤ 2 ^ 31) (atTest : period.position = .test)
    (routine : period.routine = .receiveSamples) (takes : period.Takes data.service.isSome) (success : Bool)
    (recvSample : Option Sample) {next : Period DataStoreService}
    (h : (if success then some ({ period with success := true }.receive recvSample.toList)
      else some { period with success := false, position := .freed }) = some next) :
    next.Exact rates ∧ ∃ choices, Sees stores choices ∧
      exec (Thread.step rates) (period.thread data) choices = some (next.thread data) := by
  have called := calls_queue stores exact atTest takes
  split at h <;> cases h
  · have few : recvSample.toList.length ≤ 1 := by cases recvSample <;> simp
    refine ⟨exact.receive bounded atTest takes.1 (few.trans (by decide)) true, _, ((((sees_nil stores).cons _).cons _).cons _),
      (called (some recvSample.toList.length)).trans ?_⟩
    rw [thread_receive atTest]
    simp [Frame.returned, Period.frame, routine, few]
  · refine ⟨exact.go (by rw [atTest]; rfl) _ _ _ _ _, _, ((((sees_nil stores).cons _).cons _).cons _),
      (called none).trans ?_⟩
    rw [thread_freed atTest]
    simp [Frame.returned, Period.frame, routine]

theorem takeAll_simulated (stores : List DataStoreService) (exact : period.Exact rates)
    (bounded : rates.samplesPerSec period.routine + MAX_BURST_LEN ≤ 2 ^ 31) (atTest : period.position = .test)
    (routine : period.routine = .receiveBursts) (takes : period.Takes data.service.isSome) (success : Bool)
    {samples : Option (List Sample)} (handed : (Event.takeAll success samples).Handed) {next : Period DataStoreService}
    (h : (if success then some (period.receive (samples.getD [])) else some { period with position := .freed }) =
      some next) :
    next.Exact rates ∧ ∃ choices, Sees stores choices ∧
      exec (Thread.step rates) (period.thread data) choices = some (next.thread data) := by
  have called := calls_queue stores exact atTest takes
  split at h <;> cases h
  · have few : (samples.getD []).length ≤ MAX_BURST_LEN := by
      cases samples with
      | none => exact Nat.zero_le _
      | some samples => exact handed
    refine ⟨exact.receive bounded atTest takes.1 few period.success, _, ((((sees_nil stores).cons _).cons _).cons _),
      (called (some (samples.getD []).length)).trans ?_⟩
    rw [thread_receive atTest (samples.getD []) period.success]
    simp [Frame.returned, Period.frame, routine]
  · refine ⟨exact.go (by rw [atTest]; rfl) _ _ _ _ _, _, ((((sees_nil stores).cons _).cons _).cons _),
      (called none).trans ?_⟩
    rw [thread_freed atTest period.success]
    simp [Frame.returned, Period.frame, routine]

theorem move_simulated {next : Period DataStoreService} {event : Event} (exact : period.Exact rates)
    (bounded : rates.samplesPerSec period.routine + MAX_BURST_LEN ≤ 2 ^ 31) (handed : event.Handed)
    (h : period.move data.service.isSome stores event = some next) :
    next.Exact rates ∧ ∃ choices, Sees stores choices ∧
      exec (Thread.step rates) (period.thread data) choices = some (next.thread data) := by
  unfold Period.move at h
  split at h
  · rename_i success recvSample atTest
    split at h
    · rename_i passes
      exact take_simulated stores exact bounded atTest passes.1 passes.2.2 success recvSample h
    · cases h
  · rename_i success samples atTest
    split at h
    · rename_i passes
      exact takeAll_simulated stores exact bounded atTest passes.1 passes.2.2 success handed h
    · cases h
  · rename_i atTest
    split at h <;> cases h
    rename_i passes
    refine ⟨exact.go (by rw [atTest]; rfl) _ _ _ _ _, _, ((sees_nil stores).cons _), (loop_next stores atTest).trans ?_⟩
    rw [skip_simulated exact passes.2, thread_freed atTest]
  · rename_i sample left j time atSample
    cases h
    have batch : j + (left.length + 1) = j + 1 + left.length := by omega
    refine ⟨exact.go (by rw [atSample, Position.uncounted_next]; rfl) _ _ _ _ _, [(⟨false, none, true⟩, stores)],
      (sees_nil stores).cons _, ?_⟩
    simp [exec, Thread.step, Processor.Position.move, Processor.Batch.next, Period.thread, Period.place, Period.frame,
      Period.InSendResult, Position.uncounted, atSample, batch, lockAfter]
  · rename_i sample left j atSample
    split at h <;> cases h
    rename_i routine
    have batch : j + (left.length + 1) = j + 1 + left.length := by omega
    refine ⟨exact.go (by rw [atSample, Position.uncounted_next]) _ _ _ _ _, [(⟨false, none, false⟩, stores)],
      (sees_nil stores).cons _, ?_⟩
    simp [exec, Thread.step, Processor.Position.move, Processor.Batch.next, Period.thread, Period.place, Period.frame,
      Period.InSendResult, Position.uncounted, atSample, routine, batch, lockAfter]
  · rename_i j atEnd
    cases h
    have whole : period.received.length - j + j = period.received.length := by
      have counted := exact.counted
      have nonneg := exact.nonneg
      rw [atEnd, Position.uncounted, List.length_nil] at counted
      omega
    refine ⟨exact.processed atEnd, [(⟨false, none, true⟩, stores)], (sees_nil stores).cons _, ?_⟩
    simp [exec, Thread.step, Processor.Position.move, Processor.Batch.next, Period.thread, Period.place, Period.frame,
      Period.InSendResult, Position.uncounted, atEnd, whole, lockAfter]
  · rename_i left j result i rc atStore
    split at h <;> cases h
    rename_i dsService found
    refine ⟨exact.go (by rw [atStore]; rfl) _ _ _ _ _,
      [(⟨false, none, true⟩, stores), (⟨false, none, true⟩, stores), (⟨false, none, true⟩, stores)],
      (((sees_nil stores).cons _).cons _).cons _, ?_⟩
    simp [exec, Thread.step, Processor.Position.move, Period.thread, Period.place, Period.frame, Period.InSendResult,
      Position.uncounted, atStore, found, lockAfter]
  · rename_i left j result i atStore
    split at h <;> cases h
    rename_i noneLeft
    refine ⟨exact.go (by rw [atStore]; rfl) _ _ _ _ _, [(⟨false, none, true⟩, stores)],
      (sees_nil stores).cons _, ?_⟩
    simp [exec, Thread.step, Processor.Position.move, Period.thread, Period.place, Period.frame, Period.InSendResult,
      Position.uncounted, atStore, noneLeft, lockAfter]
  · rename_i tsEnd atClock
    cases h
    refine ⟨exact.go (by rw [atClock]; rfl) _ _ _ _ _, [], sees_nil stores, ?_⟩
    simp [exec, Period.thread, Period.place, Period.frame, Period.InSendResult, Position.uncounted, atClock]
  · cases h

theorem Period.Exact.enter {routine : Routine} {samplesPerSec : Int32}
    (rate : samplesPerSec.toInt = rates.samplesPerSec routine) (tsStart : Timespec) :
    (Period.enter routine samplesPerSec tsStart : Period DataStoreService).Exact rates :=
  ⟨rfl, Int.le_refl 0, Nat.two_pow_pos 31, rate⟩

theorem move_routine {service : Bool} {next : Period DataStoreService} {event : Event}
    (h : period.move service stores event = some next) : next.routine = period.routine := by
  cases Period.moved_of_move h <;> rfl

end Steps

/-- Every period of a thread is a run of the thread on the level of its references and locks, each step a block of steps
    that find the same stores; the run holds the read lock just while a result is sent, and when the second is over it
    sets the throughput to the number of samples received. -/
theorem periods_refine (rates : Rates) (data : ThreadData QueueService) (routine : Routine) (samplesPerSec : Int32)
    (rate : samplesPerSec.toInt = rates.samplesPerSec routine)
    (bounded : rates.samplesPerSec routine + MAX_BURST_LEN ≤ 2 ^ 31) (tsStart : Timespec)
    (inputs : List (List DataStoreService × Event)) (handed : ∀ input ∈ inputs, input.2.Handed)
    (period : Period DataStoreService)
    (run : exec (Period.step data.service.isSome) (.enter routine samplesPerSec tsStart) inputs = some period) :
    ∃ blocks : List (List (Choice × List DataStoreService)),
      List.Forall₂ (fun input choices => Sees input.1 choices) inputs blocks ∧
      exec (Thread.step rates) ⟨.start routine, data, false⟩ ((⟨false, none, true⟩, []) :: blocks.flatten) =
        some (period.thread data) ∧
      (period.position = .test → ¬ period.Continues →
        let frame : Frame QueueService := ⟨routine, data.service, period.received.length, period.success⟩
        exec (Thread.step rates) ⟨.start routine, data, false⟩ ((⟨false, none, true⟩, []) :: blocks.flatten ++
          [(⟨true, none, true⟩, []), (⟨true, none, true⟩, [])]) =
            some ⟨rates.afterwards frame, data.update frame, false⟩) := by
  have matched : ∀ (state : Period DataStoreService) (input : List DataStoreService × Event)
      (next : Period DataStoreService) (thread : Thread QueueService DataStoreService),
      (state.Exact rates ∧ state.routine = routine ∧ thread = state.thread data) → input.2.Handed →
      Period.step data.service.isSome state input = some next →
      ∃ choices thread', Sees input.1 choices ∧ exec (Thread.step rates) thread choices = some thread' ∧
        next.Exact rates ∧ next.routine = routine ∧ thread' = next.thread data := by
    rintro state input next _ ⟨exact, same, rfl⟩ few taken
    obtain ⟨kept, choices, sees, ran⟩ := move_simulated exact (same ▸ bounded) few taken
    exact ⟨choices, _, sees, ran, kept, (move_routine taken).trans same, rfl⟩
  obtain ⟨blocks, _, answered, ran, exact, same, rfl⟩ :=
    exec_simulated matched ⟨Period.Exact.enter rate tsStart, rfl, rfl⟩ handed run
  have started : exec (Thread.step rates) ⟨.start routine, data, false⟩ [(⟨false, none, true⟩, [])] =
      some ((Period.enter routine samplesPerSec tsStart : Period DataStoreService).thread data) := rfl
  have reached : exec (Thread.step rates) ⟨.start routine, data, false⟩ ((⟨false, none, true⟩, []) :: blocks.flatten) =
      some (period.thread data) := by
    rw [← List.singleton_append, exec_append, started]
    exact ran
  refine ⟨blocks, answered, reached, fun atTest ends => ?_⟩
  have frame : period.frame data.service = ⟨routine, data.service, period.received.length, period.success⟩ := by
    simp [Period.frame, same, atTest, Position.uncounted]
  rw [exec_append, reached, ← frame]
  simp [exec, Thread.step, Processor.Position.move, Frame.next, Period.thread, Period.place, Period.InSendResult, atTest,
    lockAfter]

def shortOfMemory (first second : Sample) : List (List Nat × Event) :=
  [([1], .takeAll true (some [first, second])), ([1], .process 7), ([1], .store 0), ([1], .unlock), ([1], .callocFails),
    ([1], .processed), ([1], .clock ⟨1, 0⟩)]

theorem short_of_memory_refines : ∃ (period : Period Nat) (choices : List (Choice × List Nat)),
    exec (Period.step true) (.enter .receiveBursts 250 ⟨0, 0⟩) (shortOfMemory ⟨1, 2, 3⟩ ⟨4, 5, 6⟩) = some period ∧
      period.calls.length = 1 ∧
      exec (Thread.step Processor.rates) ⟨.start .receiveBursts, ⟨0, true, some 3, 0, 0⟩, false⟩ choices =
        some ⟨.test true, ⟨0, true, some 3, 0, 2⟩, false⟩ := by
  have handed : ∀ input ∈ shortOfMemory ⟨1, 2, 3⟩ ⟨4, 5, 6⟩, input.2.Handed := by
    simp [shortOfMemory, Event.Handed, MAX_BURST_LEN]
  have refined := periods_refine Processor.rates ⟨0, true, some 3, 0, 0⟩ .receiveBursts 250 (by decide) (by decide) ⟨0, 0⟩
    (shortOfMemory ⟨1, 2, 3⟩ ⟨4, 5, 6⟩) handed _ rfl
  obtain ⟨blocks, _, _, ends⟩ := refined
  exact ⟨_, _, rfl, rfl, ends rfl (by decide)⟩

end Celix.ProcessorRounds
