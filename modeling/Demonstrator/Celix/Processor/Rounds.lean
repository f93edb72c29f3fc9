import Demonstrator.Celix.Processor.Receive
import Demonstrator.Celix.Producer.Rounds
import Demonstrator.Transition.Runs

namespace Celix.ProcessorRounds

open Processor (Routine)
open ProducerRounds (Timespec)
open Transition

def MIN_BURST_LEN : Nat := 25

def MAX_BURST_LEN : Nat := 25

def BURST_SAMPLES_PER_SEC : Int32 := 250

structure Sample where
  time : UInt64
  value1 : Float
  value2 : Float

structure Result where
  processingTime : UInt64
  result1 : Float
  sample : Sample

/-- `processor_processSample`, at the time that `time` gives. -/
def processSample (sample : Sample) (time : UInt64) : Result where
  processingTime := time
  result1 := sample.value1 + sample.value2
  sample := sample

def timespecDiff (start end' : Timespec) : Timespec := ProducerRounds.timespecDiff start end'

/-- Where a thread is in `processor_receiveSamples` or `processor_receiveBursts`: at the condition of the loop, in
    the pass over the received samples, in `processor_sendResult` with its read lock, before the clock is read. -/
inductive Position where
  | test
  | processing (left : List Sample) (j : Nat)
  | sending (left : List Sample) (j : Nat) (result : Result) (i : Nat)
  | freed

/-- A call of `processor_sendResult`, with the data stores that are registered when it gets the lock. -/
structure Send (DataStoreService : Type) where
  sample : Sample
  stores : List DataStoreService

structure StoreCall (DataStoreService : Type) where
  dsService : DataStoreService
  result : Result
  rc : Int32

/-- The locals of `processor_receiveSamples` and `processor_receiveBursts`, and what has happened since they were
    entered: the samples received, the results sent, the calls of the stores and the readings of the clock. -/
structure Period (DataStoreService : Type) where
  routine : Routine
  samplesPerSec : Int32
  tsStart : Timespec
  tsDiff : Timespec
  sampleCnt : Int32
  success : Bool
  position : Position
  received : List Sample
  sends : List (Send DataStoreService)
  calls : List (StoreCall DataStoreService)
  readings : List Timespec

section Program

variable {DataStoreService : Type}

def Period.enter (routine : Routine) (samplesPerSec : Int32) (tsStart : Timespec) : Period DataStoreService where
  routine := routine
  samplesPerSec := samplesPerSec
  tsStart := tsStart
  tsDiff := timespecDiff tsStart tsStart
  sampleCnt := 0
  success := true
  position := .test
  received := []
  sends := []
  calls := []
  readings := []

def Period.Continues (period : Period DataStoreService) : Prop := period.tsDiff.tvSec ≤ 0

instance (period : Period DataStoreService) : Decidable period.Continues := inferInstanceAs (Decidable (_ ≤ _))

/-- A pass that calls the queue: the others sleep, or find no service. -/
def Period.Takes (service : Bool) (period : Period DataStoreService) : Prop :=
  period.sampleCnt < period.samplesPerSec ∧ service = true

instance (service : Bool) (period : Period DataStoreService) : Decidable (period.Takes service) :=
  inferInstanceAs (Decidable (_ ∧ _))

inductive Event where
  | take (success : Bool) (recvSample : Option Sample)
  | takeAll (success : Bool) (samples : Option (List Sample))
  | skip
  | process (time : UInt64)
  | callocFails
  | processed
  | store (rc : Int32)
  | unlock
  | clock (tsEnd : Timespec)

def Period.receive (period : Period DataStoreService) (samples : List Sample) : Period DataStoreService :=
  { period with received := period.received ++ samples, position := .processing samples 0 }

def Period.move (service : Bool) (stores : List DataStoreService) (period : Period DataStoreService) (event : Event) :
    Option (Period DataStoreService) :=
  match period.position, event with
  | .test, .take success recvSample =>
    if period.routine = .receiveSamples ∧ period.Continues ∧ period.Takes service then
      -- the status of the routine is that of its last take
      if success then some ({ period with success := true }.receive recvSample.toList)
      else some { period with success := false, position := .freed }
    else none
  | .test, .takeAll success samples =>
    if period.routine = .receiveBursts ∧ period.Continues ∧ period.Takes service then
      if success then some (period.receive (samples.getD []))
      else some { period with position := .freed }
    else none
  | .test, .skip =>
    if period.Continues ∧ ¬ period.Takes service then
      some { period with
        success := if period.sampleCnt < period.samplesPerSec then false else period.success
        position := .freed }
    else none
  | .processing (sample :: left) j, .process time =>
    some { period with
      position := .sending left j (processSample sample time) 0
      sends := period.sends ++ [⟨sample, stores⟩] }
  | .processing (_ :: left) j, .callocFails =>
    match period.routine with
    | .receiveBursts => some { period with position := .processing left (j + 1) }
    -- the result of a single sample is written untested
    | .receiveSamples => none
  | .processing [] j, .processed =>
    some { period with sampleCnt := period.sampleCnt + Int32.ofNat j, position := .freed }
  | .sending left j result i, .store rc =>
    match stores[i]? with
    | some dsService => some { period with
        position := .sending left j result (i + 1)
        calls := period.calls ++ [⟨dsService, result, rc⟩] }
    | none => none
  | .sending left j _ i, .unlock =>
    match stores[i]? with
    | some _ => none
    | none => some { period with position := .processing left (j + 1) }
  | .freed, .clock tsEnd =>
    some { period with
      tsDiff := timespecDiff period.tsStart tsEnd
      position := .test
      readings := period.readings ++ [tsEnd] }
  | _, _ => none

def Period.InSendResult (period : Period DataStoreService) : Bool :=
  match period.position with
  | .sending _ _ _ _ => true
  | _ => false

structure Throughputs where
  single_throughput : UInt64
  burst_throughput : UInt64

def Throughputs.update (throughputs : Throughputs) (period : Period DataStoreService) : Throughputs :=
  match period.routine with
  | .receiveSamples => { throughputs with single_throughput := period.sampleCnt.toInt64.toUInt64 }
  | .receiveBursts => { throughputs with burst_throughput := period.sampleCnt.toInt64.toUInt64 }

structure Report (DataStoreService : Type) where
  period : Period DataStoreService
  throughputs : Throughputs

structure System (DataStoreService : Type) where
  period : Option (Period DataStoreService)
  throughputs : Throughputs
  dataStoreServices : List DataStoreService
  reports : List (Report DataStoreService)

def System.create (dataStoreServices : List DataStoreService) : System DataStoreService :=
  ⟨none, ⟨0, 0⟩, dataStoreServices, []⟩

inductive Action (DataStoreService : Type) where
  | enter (routine : Routine) (samplesPerSec : Int32) (tsStart : Timespec)
  | event (event : Event)
  | leave
  | dataStoreServiceAdded (service : DataStoreService)
  | dataStoreServiceRemoved (service : DataStoreService)

def System.readLocked (s : System DataStoreService) : Bool := s.period.any Period.InSendResult

/-- One step of the thread, or the write-locked section of a tracker, which waits for the read lock. The other
    threads of the processor only read the list. -/
def step [DecidableEq DataStoreService] (service : Bool) (s : System DataStoreService) :
    Action DataStoreService → Option (System DataStoreService)
  | .enter routine samplesPerSec tsStart =>
    match s.period with
    | some _ => none
    | none => some { s with period := some (.enter routine samplesPerSec tsStart) }
  | .event event =>
    match s.period with
    | none => none
    | some period => (period.move service s.dataStoreServices event).map fun next => { s with period := some next }
  | .leave =>
    match s.period with
    | none => none
    | some period =>
      match period.position with
      | .test =>
        if period.Continues then none
        else some { s with
          period := none
          throughputs := s.throughputs.update period
          reports := s.reports ++ [⟨period, s.throughputs.update period⟩] }
      | _ => none
  | .dataStoreServiceAdded added =>
    if s.readLocked then none else some { s with dataStoreServices := s.dataStoreServices ++ [added] }
  | .dataStoreServiceRemoved removed =>
    if s.readLocked then none else some { s with dataStoreServices := s.dataStoreServices.erase removed }

/-- What a step of a thread can do, apart from the calls that give nothing and the passes that make none. -/
inductive Period.Moved (stores : List DataStoreService) (period : Period DataStoreService) :
    Event → Period DataStoreService → Prop
  | idle {event : Event} (success : Bool) (atTest : period.position = .test) (continues : period.Continues) :
      Moved stores period event { period with success, position := .freed }
  | received {event : Event} (success : Bool) (samples : List Sample) (atTest : period.position = .test)
      (continues : period.Continues) (below : period.sampleCnt < period.samplesPerSec)
      (handed : period.routine = .receiveBursts → event = .takeAll true (some samples) ∨ samples = []) :
      Moved stores period event ({ period with success }.receive samples)
  | sends {sample : Sample} {left : List Sample} {j : Nat} (time : UInt64)
      (atSample : period.position = .processing (sample :: left) j) :
      Moved stores period (.process time) { period with
        position := .sending left j (processSample sample time) 0
        sends := period.sends ++ [⟨sample, stores⟩] }
  | lost {sample : Sample} {left : List Sample} {j : Nat}
      (atSample : period.position = .processing (sample :: left) j) :
      Moved stores period .callocFails { period with position := .processing left (j + 1) }
  | counted {j : Nat} (atEnd : period.position = .processing [] j) :
      Moved stores period .processed
        { period with sampleCnt := period.sampleCnt + Int32.ofNat j, position := .freed }
  | stored {left : List Sample} {j : Nat} {result : Result} {i : Nat} {dsService : DataStoreService} (rc : Int32)
      (atStore : period.position = .sending left j result i) (found : stores[i]? = some dsService) :
      Moved stores period (.store rc) { period with
        position := .sending left j result (i + 1)
        calls := period.calls ++ [⟨dsService, result, rc⟩] }
  | unlocked {left : List Sample} {j : Nat} {result : Result} {i : Nat}
      (atStore : period.position = .sending left j result i) (noneLeft : stores[i]? = none) :
      Moved stores period .unlock { period with position := .processing left (j + 1) }
  | read (tsEnd : Timespec) (atClock : period.position = .freed) :
      Moved stores period (.clock tsEnd) { period with
        tsDiff := timespecDiff period.tsStart tsEnd
        position := .test
        readings := period.readings ++ [tsEnd] }

theorem Period.moved_of_move {service : Bool} {stores : List DataStoreService} {period next : Period DataStoreService}
    {event : Event} (h : period.move service stores event = some next) : period.Moved stores event next := by
  unfold move at h
  split at h
  · rename_i success recvSample atTest
    split at h
    · rename_i passes
      obtain ⟨routine, continues, below, _⟩ := passes
      split at h <;> cases h
      · refine .received true recvSample.toList atTest continues below fun bursts => ?_
        cases routine.symm.trans bursts
      · exact .idle false atTest continues
    · cases h
  · rename_i success samples atTest
    split at h
    · rename_i passes
      obtain ⟨_, continues, below, _⟩ := passes
      split at h <;> cases h
      · rename_i granted
        refine .received period.success (samples.getD []) atTest continues below fun _ => ?_
        cases samples with
        | none => exact .inr rfl
        | some samples =>
          rw [granted]
          exact .inl rfl
      · exact .idle period.success atTest continues
    · cases h
  · rename_i atTest
    split at h <;> cases h
    rename_i passes
    exact .idle _ atTest passes.1
  · rename_i sample left j time atSample
    cases h
    exact .sends time atSample
  · rename_i sample left j atSample
    split at h <;> cases h
    exact .lost atSample
  · rename_i j atEnd
    cases h
    exact .counted atEnd
  · rename_i left j result i rc atStore
    split at h <;> cases h
    rename_i dsService found
    exact .stored rc atStore found
  · rename_i left j result i atStore
    split at h <;> cases h
    rename_i noneLeft
    exact .unlocked atStore noneLeft
  · rename_i tsEnd atClock
    cases h
    exact .read tsEnd atClock
  · cases h

/-- What the periods of a thread keep with the stores that are registered, and what it leaves in their reports,
    when every step of a run is allowed. -/
structure Keeps (allowed : Action DataStoreService → Prop)
    (inv : List DataStoreService → Period DataStoreService → Prop) (outcome : Report DataStoreService → Prop) :
    Prop where
  enter : ∀ stores routine samplesPerSec tsStart, allowed (.enter routine samplesPerSec tsStart) →
    inv stores (.enter routine samplesPerSec tsStart)
  moved : ∀ stores period event next, inv stores period → allowed (.event event) →
    period.Moved stores event next → inv stores next
  shared : ∀ stores stores' period, period.InSendResult = false → inv stores period → inv stores' period
  leave : ∀ stores period throughputs, inv stores period → period.position = .test → ¬ period.Continues →
    outcome ⟨period, Throughputs.update throughputs period⟩

structure System.Satisfies (inv : List DataStoreService → Period DataStoreService → Prop)
    (outcome : Report DataStoreService → Prop) (s : System DataStoreService) : Prop where
  current : ∀ period, s.period = some period → inv s.dataStoreServices period
  ended : ∀ report ∈ s.reports, outcome report

section Runs

variable {allowed : Action DataStoreService → Prop} {inv : List DataStoreService → Period DataStoreService → Prop}
  {outcome : Report DataStoreService → Prop}

theorem Keeps.tracker (keeps : Keeps allowed inv outcome) {s : System DataStoreService}
    (satisfies : s.Satisfies inv outcome) (unlocked : ¬ s.readLocked) (dataStoreServices : List DataStoreService) :
    { s with dataStoreServices }.Satisfies inv outcome where
  current := by
    intro period present
    have outside : period.InSendResult = false := by
      rw [System.readLocked, present] at unlocked
      exact Bool.eq_false_iff.mpr unlocked
    exact keeps.shared s.dataStoreServices dataStoreServices period outside (satisfies.current period present)
  ended := satisfies.ended

variable [DecidableEq DataStoreService]

theorem Keeps.step (keeps : Keeps allowed inv outcome) (service : Bool) (s : System DataStoreService)
    (action : Action DataStoreService) (t : System DataStoreService) (satisfies : s.Satisfies inv outcome)
    (permitted : allowed action) (h : step service s action = some t) : t.Satisfies inv outcome := by
  cases action with
  | enter routine samplesPerSec tsStart =>
    simp only [ProcessorRounds.step] at h
    split at h <;> cases h
    refine ⟨?_, satisfies.ended⟩
    rintro period ⟨⟩
    exact keeps.enter _ routine samplesPerSec tsStart permitted
  | event event =>
    simp only [ProcessorRounds.step] at h
    split at h
    · cases h
    · rename_i period present
      obtain ⟨next, moves, rfl⟩ := Option.map_eq_some_iff.mp h
      refine ⟨?_, satisfies.ended⟩
      rintro other ⟨⟩
      exact keeps.moved _ period event next (satisfies.current period present) permitted (Period.moved_of_move moves)
  | leave =>
    simp only [ProcessorRounds.step] at h
    split at h
    · cases h
    · rename_i period present
      split at h
      · rename_i atTest
        split at h <;> cases h
        rename_i ends
        refine ⟨fun other none => (by cases none), fun report listed => ?_⟩
        rcases List.mem_append.mp listed with before | last
        · exact satisfies.ended report before
        · rw [List.mem_singleton.mp last]
          exact keeps.leave _ period _ (satisfies.current period present) atTest ends
      · cases h
  | dataStoreServiceAdded added =>
    simp only [ProcessorRounds.step] at h
    split at h <;> cases h
    exact keeps.tracker satisfies (by assumption) _
  | dataStoreServiceRemoved removed =>
    simp only [ProcessorRounds.step] at h
    split at h <;> cases h
    exact keeps.tracker satisfies (by assumption) _

theorem Keeps.run (keeps : Keeps allowed inv outcome) {service : Bool} {stores : List DataStoreService}
    {actions : List (Action DataStoreService)} {final : System DataStoreService}
    (permitted : ∀ action ∈ actions, allowed action)
    (run : exec (ProcessorRounds.step service) (.create stores) actions = some final) : final.Satisfies inv outcome := by
  refine meets_invariant (keeps.step service) ⟨?_, ?_⟩ (meets_of_forall _ permitted) run
  · intro period present
    cases present
  · intro report listed
    cases listed

end Runs

end Program

end Celix.ProcessorRounds
