import Demonstrator.Celix.SampleQueue.Removal

namespace Celix.ProducerRounds

open SampleQueue (takeSection takeAllSection)

structure Timespec where
  tvSec : Int
  tvNsec : Int
  deriving DecidableEq, Repr

def timespecDiff (start end' : Timespec) : Timespec :=
  if end'.tvNsec - start.tvNsec < 0 then
    ⟨end'.tvSec - start.tvSec - 1, 1000000000 + end'.tvNsec - start.tvNsec⟩
  else ⟨end'.tvSec - start.tvSec, end'.tvNsec - start.tvNsec⟩

/-- The two functions that run a round: `producer_sendSamples` and `producer_sendBursts`. -/
inductive Kind where
  | samples
  | bursts
  deriving DecidableEq, Repr

/-- A round in progress. `called` is set between the call on the queue and the next reading of the clock;
    `appended` is what the queue has appended from this round, and `longest` its longest burst. -/
structure Round (Sample : Type) where
  kind : Kind
  samplesPerSec : Int32
  tsStart : Timespec
  tsDiff : Timespec
  sampleCnt : Int32
  called : Bool
  appended : List Sample
  longest : Nat
  deriving DecidableEq, Repr

def Round.enter {Sample : Type} (kind : Kind) (samplesPerSec : Int32) (tsStart : Timespec) : Round Sample where
  kind := kind
  samplesPerSec := samplesPerSec
  tsStart := tsStart
  tsDiff := timespecDiff tsStart tsStart
  sampleCnt := 0
  called := false
  appended := []
  longest := 0

def Round.Continues {Sample : Type} (round : Round Sample) : Prop :=
  round.sampleCnt < round.samplesPerSec ∧ round.tsDiff.tvSec ≤ 0

instance {Sample : Type} (round : Round Sample) : Decidable round.Continues :=
  inferInstanceAs (Decidable (_ ∧ _))

/-- A round that has ended, with the `unsigned long` it has written as the throughput of its kind. -/
structure Report (Sample : Type) where
  thread : Nat
  kind : Kind
  samplesPerSec : Int32
  throughput : UInt64
  appended : List Sample
  longest : Nat
  deriving DecidableEq, Repr

structure System (Sample : Type) where
  queue : SampleQueue Sample
  rounds : Nat → Option (Round Sample)
  reports : List (Report Sample)

variable {Sample : Type}

def System.initial : System Sample := ⟨.create, fun _ => none, []⟩

inductive Other (Sample : Type) where
  | take (rc : WaitCode) (out : Option Sample)
  | takeAll (rc : WaitCode) (min max : Nat)
  | printStatistics
  | destroy
  deriving DecidableEq, Repr

def Other.run (q : SampleQueue Sample) : Other Sample → Except Fault (SampleQueue Sample)
  | .take rc out =>
    match takeSection rc out q with
    | .error fault => .error fault
    | .ok .waits => .ok q
    | .ok (.returns result) => .ok result.queue
  | .takeAll rc min max =>
    match takeAllSection rc min max q with
    | .waits => .ok q
    | .returns result => .ok result.queue
  | .printStatistics => (SampleQueue.printStatistics q).map Prod.fst
  | .destroy => SampleQueue.destroy q

inductive Action (Sample : Type) where
  | enter (thread : Nat) (kind : Kind) (samplesPerSec : Int32) (tsStart : Timespec)
  | put (thread : Nat) (sample : Sample) (calloc add : Bool)
  | putAll (thread : Nat) (burst : List Sample) (calloc add : Nat → Bool)
  | clock (thread : Nat) (tsEnd : Timespec)
  | leave (thread : Nat)
  | other (section' : Other Sample)

def appendedBetween (before after : SampleQueue Sample) : List Sample :=
  (after.queue.getD []).drop (before.queue.getD []).length

/-- The call of one pass of the loop of `producer_sendSamples`. Without a service the flag stays false. -/
def sendSample (service : Bool) (sample : Sample) (calloc add : Bool) (q : SampleQueue Sample)
    (round : Round Sample) : SampleQueue Sample × Round Sample :=
  if service then
    let (next, ret, _) := SampleQueue.put calloc add sample false q
    (next, { round with
      sampleCnt := if ret then round.sampleCnt + 1 else round.sampleCnt
      called := true
      appended := round.appended ++ appendedBetween q next })
  else (q, { round with called := true })

/-- The call of one pass of the loop of `producer_sendBursts`. Without a service no sample is stored. -/
def sendBurst (service : Bool) (burst : List Sample) (calloc add : Nat → Bool) (q : SampleQueue Sample)
    (round : Round Sample) : SampleQueue Sample × Round Sample :=
  let longest := max round.longest burst.length
  if service then
    let result := SampleQueue.putAll calloc add burst 0 q
    (result.queue, { round with
      sampleCnt := round.sampleCnt + Int32.ofNat result.samplesTaken
      called := true
      appended := round.appended ++ appendedBetween q result.queue
      longest })
  else (q, { round with called := true, longest })

def System.setRound (s : System Sample) (thread : Nat) (round : Option (Round Sample)) : System Sample :=
  { s with rounds := Function.update s.rounds thread round }

/-- One step of a thread, or a critical section of another user. `service` says which threads have one. -/
def step (service : Nat → Bool) (s : System Sample) : Action Sample → Option (System Sample)
  | .enter thread kind samplesPerSec tsStart =>
    match s.rounds thread with
    | some _ => none
    | none => some (s.setRound thread (some (.enter kind samplesPerSec tsStart)))
  | .put thread sample calloc add =>
    match s.rounds thread with
    | none => none
    | some round =>
      if round.kind = .samples ∧ round.called = false ∧ round.Continues then
        let (queue, next) := sendSample (service thread) sample calloc add s.queue round
        some ({ s with queue }.setRound thread (some next))
      else none
  | .putAll thread burst calloc add =>
    match s.rounds thread with
    | none => none
    | some round =>
      if round.kind = .bursts ∧ round.called = false ∧ round.Continues then
        let (queue, next) := sendBurst (service thread) burst calloc add s.queue round
        some ({ s with queue }.setRound thread (some next))
      else none
  | .clock thread tsEnd =>
    match s.rounds thread with
    | none => none
    | some round =>
      if round.called then
        some (s.setRound thread (some { round with tsDiff := timespecDiff round.tsStart tsEnd, called := false }))
      else none
  | .leave thread =>
    match s.rounds thread with
    | none => none
    | some round =>
      if round.called = false ∧ ¬ round.Continues then
        some { s.setRound thread none with
          reports := s.reports ++ [{
            thread
            kind := round.kind
            samplesPerSec := round.samplesPerSec
            throughput := round.sampleCnt.toInt64.toUInt64
            appended := round.appended
            longest := round.longest }] }
      else none
  | .other section' =>
    match section'.run s.queue with
    | .error _ => none
    | .ok queue => some { s with queue }

inductive Stepped (service : Nat → Bool) (s : System Sample) : Action Sample → System Sample → Prop
  | entered {thread : Nat} {kind : Kind} {samplesPerSec : Int32} {tsStart : Timespec} :
      Stepped service s (.enter thread kind samplesPerSec tsStart)
        (s.setRound thread (some (.enter kind samplesPerSec tsStart)))
  | sentSample {thread : Nat} {sample : Sample} {calloc add : Bool} {round : Round Sample}
      (present : s.rounds thread = some round) (kind : round.kind = .samples) (continues : round.Continues) :
      Stepped service s (.put thread sample calloc add)
        ({ s with queue := (sendSample (service thread) sample calloc add s.queue round).1 }.setRound thread
          (some (sendSample (service thread) sample calloc add s.queue round).2))
  | sentBurst {thread : Nat} {burst : List Sample} {calloc add : Nat → Bool} {round : Round Sample}
      (present : s.rounds thread = some round) (kind : round.kind = .bursts) (continues : round.Continues) :
      Stepped service s (.putAll thread burst calloc add)
        ({ s with queue := (sendBurst (service thread) burst calloc add s.queue round).1 }.setRound thread
          (some (sendBurst (service thread) burst calloc add s.queue round).2))
  | read {thread : Nat} {tsEnd : Timespec} {round : Round Sample} (present : s.rounds thread = some round)
      (called : round.called = true) :
      Stepped service s (.clock thread tsEnd)
        (s.setRound thread (some { round with tsDiff := timespecDiff round.tsStart tsEnd, called := false }))
  | left {thread : Nat} {round : Round Sample} (present : s.rounds thread = some round) :
      Stepped service s (.leave thread)
        { s.setRound thread none with
          reports := s.reports ++ [{
            thread
            kind := round.kind
            samplesPerSec := round.samplesPerSec
            throughput := round.sampleCnt.toInt64.toUInt64
            appended := round.appended
            longest := round.longest }] }
  | elsewhere {section' : Other Sample} {queue : SampleQueue Sample} :
      Stepped service s (.other section') { s with queue }

theorem stepped_of_step {service : Nat → Bool} {s t : System Sample} {action : Action Sample}
    (h : step service s action = some t) : Stepped service s action t := by
  cases action with
  | enter thread kind samplesPerSec tsStart =>
    simp only [step] at h
    split at h <;> cases h
    exact .entered
  | put thread sample calloc add =>
    simp only [step] at h
    split at h
    · cases h
    · rename_i round present
      split at h <;> cases h
      rename_i passes
      exact .sentSample present passes.1 passes.2.2
  | putAll thread burst calloc add =>
    simp only [step] at h
    split at h
    · cases h
    · rename_i round present
      split at h <;> cases h
      rename_i passes
      exact .sentBurst present passes.1 passes.2.2
  | clock thread tsEnd =>
    simp only [step] at h
    split at h
    · cases h
    · rename_i round present
      split at h <;> cases h
      rename_i called
      exact .read present called
  | leave thread =>
    simp only [step] at h
    split at h
    · cases h
    · rename_i round present
      split at h <;> cases h
      exact .left present
  | other section' =>
    simp only [step] at h
    split at h <;> cases h
    exact .elsewhere

end Celix.ProducerRounds
