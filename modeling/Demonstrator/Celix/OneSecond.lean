import Demonstrator.Celix.Processor.Rounds
import Demonstrator.Transition.Updates

namespace Celix

open Transition
open ProducerRounds (Timespec)

def Normal (time : Timespec) : Prop := 0 ≤ time.tvNsec ∧ time.tvNsec < 1000000000

instance (time : Timespec) : Decidable (Normal time) := inferInstanceAs (Decidable (_ ∧ _))

def nanoseconds (time : Timespec) : Int := time.tvSec * 1000000000 + time.tvNsec

structure IsDifference (start end' diff : Timespec) : Prop where
  normal : Normal diff
  exact' : nanoseconds diff = nanoseconds end' - nanoseconds start

def SecondAfter (start reading : Timespec) : Prop := nanoseconds start + 1000000000 ≤ nanoseconds reading

/-- A loop that goes on while `other` holds and the clock lets it: the clock ends it at the first reading that is a
    full second after its start. -/
structure EndedByClock (start : Timespec) (readings : List Timespec) (other continues : Prop) : Prop where
  continues : continues ↔ other ∧ ∀ reading ∈ readings, ¬ SecondAfter start reading
  earlier : ∀ reading ∈ readings.dropLast, ¬ SecondAfter start reading

theorem timespecDiff_isDifference {start end' : Timespec} (first : Normal start) (last : Normal end') :
    IsDifference start end' (ProducerRounds.timespecDiff start end') := by
  obtain ⟨low, high⟩ := first
  obtain ⟨low', high'⟩ := last
  unfold ProducerRounds.timespecDiff
  split
  all_goals
    refine ⟨⟨?_, ?_⟩, ?_⟩
    all_goals
      dsimp only [nanoseconds]
      omega

theorem IsDifference.tvSec_iff {start end' diff : Timespec} (difference : IsDifference start end' diff) :
    diff.tvSec ≤ 0 ↔ ¬ SecondAfter start end' := by
  obtain ⟨⟨low, high⟩, exact'⟩ := difference
  rw [SecondAfter]
  rw [nanoseconds] at exact'
  omega

/-- What a loop knows of its clock: the readings so far, of which only the last may end it. -/
structure Window (start : Timespec) (readings : List Timespec) (diff : Timespec) : Prop where
  normal : Normal start
  continues : diff.tvSec ≤ 0 ↔ ∀ reading ∈ readings, ¬ SecondAfter start reading
  earlier : ∀ reading ∈ readings.dropLast, ¬ SecondAfter start reading

theorem Window.enter {start : Timespec} (normal : Normal start) :
    Window start [] (ProducerRounds.timespecDiff start start) where
  normal := normal
  continues := by simp [ProducerRounds.timespecDiff]
  earlier := by simp

theorem Window.read {start tsEnd diff : Timespec} {readings : List Timespec} (window : Window start readings diff)
    (continued : diff.tvSec ≤ 0) (normal : Normal tsEnd) :
    Window start (readings ++ [tsEnd]) (ProducerRounds.timespecDiff start tsEnd) where
  normal := window.normal
  continues := by
    have before := window.continues.mp continued
    rw [(timespecDiff_isDifference window.normal normal).tvSec_iff, List.forall_mem_append, List.forall_mem_singleton]
    exact (and_iff_right before).symm
  earlier := by
    rw [List.dropLast_concat]
    exact window.continues.mp continued

namespace ProducerRounds

variable {Sample : Type}

structure Clocked (Sample : Type) where
  system : System Sample
  readings : Nat → List Timespec

def Clocked.initial : Clocked Sample := ⟨.initial, fun _ => []⟩

def recordReading (readings : Nat → List Timespec) : Action Sample → Nat → List Timespec
  | .enter thread _ _ _ => Function.update readings thread []
  | .clock thread tsEnd => Function.update readings thread (readings thread ++ [tsEnd])
  | .put _ _ _ _ | .putAll _ _ _ _ | .leave _ | .other _ => readings

def clockedStep (service : Nat → Bool) (s : Clocked Sample) (action : Action Sample) : Option (Clocked Sample) :=
  (step service s.system action).map fun system => ⟨system, recordReading s.readings action⟩

def Action.NormalClock : Action Sample → Prop
  | .enter _ _ _ tsStart => Normal tsStart
  | .clock _ tsEnd => Normal tsEnd
  | .put _ _ _ _ | .putAll _ _ _ _ | .leave _ | .other _ => True

structure Round.Timed (readings : List Timespec) (round : Round Sample) : Prop where
  window : Window round.tsStart readings round.tsDiff
  called : round.called = true → round.tsDiff.tvSec ≤ 0

def Timed (rounds : Nat → Option (Round Sample)) (readings : Nat → List Timespec) : Prop :=
  ∀ thread round, rounds thread = some round → round.Timed (readings thread)

section Updates

variable {rounds : Nat → Option (Round Sample)} {readings : Nat → List Timespec} {round : Round Sample}

theorem Timed.update (timed : Timed rounds readings) (thread : Nat) {added : List Timespec}
    (now : round.Timed added) :
    Timed (Function.update rounds thread (some round)) (Function.update readings thread added) := by
  intro other found present
  rcases update_some_iff.mp present with ⟨rfl, rfl⟩ | ⟨different, before⟩
  · rw [Function.update_self]
    exact now
  · rw [Function.update_of_ne different]
    exact timed other found before

theorem Timed.update_round (timed : Timed rounds readings) {thread : Nat} (now : round.Timed (readings thread)) :
    Timed (Function.update rounds thread (some round)) readings := by
  have updated := timed.update thread now
  rwa [Function.update_eq_self] at updated

end Updates

theorem Round.Timed.sendSample {round : Round Sample} {readings : List Timespec} (timed : round.Timed readings)
    (continues : round.Continues) (service : Bool) (sample : Sample) (calloc add : Bool) (q : SampleQueue Sample) :
    (sendSample service sample calloc add q round).2.Timed readings := by
  cases service with
  | false => exact ⟨timed.window, fun _ => continues.2⟩
  | true => exact ⟨timed.window, fun _ => continues.2⟩

theorem Round.Timed.sendBurst {round : Round Sample} {readings : List Timespec} (timed : round.Timed readings)
    (continues : round.Continues) (service : Bool) (burst : List Sample) (calloc add : Nat → Bool)
    (q : SampleQueue Sample) : (sendBurst service burst calloc add q round).2.Timed readings := by
  cases service with
  | false => exact ⟨timed.window, fun _ => continues.2⟩
  | true => exact ⟨timed.window, fun _ => continues.2⟩

theorem timed_step (service : Nat → Bool) (s : Clocked Sample) (action : Action Sample) (t : Clocked Sample)
    (timed : Timed s.system.rounds s.readings) (normal : action.NormalClock)
    (h : clockedStep service s action = some t) : Timed t.system.rounds t.readings := by
  obtain ⟨system, taken, rfl⟩ := Option.map_eq_some_iff.mp h
  cases stepped_of_step taken with
  | entered => exact timed.update _ ⟨.enter normal, fun called => (by cases called)⟩
  | sentSample present kind continues =>
    exact timed.update_round ((timed _ _ present).sendSample continues _ _ _ _ _)
  | sentBurst present kind continues =>
    exact timed.update_round ((timed _ _ present).sendBurst continues _ _ _ _ _)
  | read present called =>
    obtain ⟨window, continued⟩ := timed _ _ present
    exact timed.update _ ⟨window.read (continued called) normal, fun again => (by cases again)⟩
  | left present =>
    intro other found still
    exact timed other found (update_none_iff.mp still).2
  | elsewhere => exact timed

theorem Round.Timed.endedByClock {round : Round Sample} {readings : List Timespec} (timed : round.Timed readings) :
    EndedByClock round.tsStart readings (round.sampleCnt < round.samplesPerSec) round.Continues where
  continues := and_congr_right fun _ => timed.window.continues
  earlier := timed.window.earlier

end ProducerRounds

namespace ProcessorRounds

variable {DataStoreService : Type}

def Action.NormalClock : Action DataStoreService → Prop
  | .enter _ _ tsStart => Normal tsStart
  | .event (.clock tsEnd) => Normal tsEnd
  | _ => True

structure Period.Timed (period : Period DataStoreService) : Prop where
  window : Window period.tsStart period.readings period.tsDiff
  begun : period.position ≠ .test → period.Continues

theorem Period.Timed.moved {stores : List DataStoreService} {period next : Period DataStoreService} {event : Event}
    (timed : period.Timed) (normal : (Action.event event : Action DataStoreService).NormalClock)
    (moved : period.Moved stores event next) : next.Timed := by
  obtain ⟨window, begun⟩ := timed
  cases moved with
  | idle success atTest continues => exact ⟨window, fun _ => continues⟩
  | received success samples atTest continues => exact ⟨window, fun _ => continues⟩
  | sends time atSample => exact ⟨window, fun _ => begun (by simp [atSample])⟩
  | lost atSample => exact ⟨window, fun _ => begun (by simp [atSample])⟩
  | counted atEnd => exact ⟨window, fun _ => begun (by simp [atEnd])⟩
  | stored rc atStore => exact ⟨window, fun _ => begun (by simp [atStore])⟩
  | unlocked atStore => exact ⟨window, fun _ => begun (by simp [atStore])⟩
  | read tsEnd atClock =>
    have continued := begun (by simp [atClock])
    exact ⟨window.read continued normal, fun other => absurd rfl other⟩

theorem Period.Timed.endedByClock {period : Period DataStoreService} (timed : period.Timed) :
    EndedByClock period.tsStart period.readings True period.Continues where
  continues := by
    rw [true_and]
    exact timed.window.continues
  earlier := timed.window.earlier

theorem timed_kept : Keeps Action.NormalClock (fun _ (period : Period DataStoreService) => period.Timed)
    (fun report => EndedByClock report.period.tsStart report.period.readings True False) where
  enter stores routine samplesPerSec tsStart normal := ⟨.enter normal, fun other => absurd rfl other⟩
  moved stores period event next timed normal moved := timed.moved normal moved
  shared stores stores' period outside timed := timed
  leave stores period throughputs timed atTest ends := by
    obtain ⟨continues, earlier⟩ := timed.endedByClock
    exact ⟨(iff_of_false id ends).trans continues, earlier⟩

end ProcessorRounds

def producerReadings : List (ProducerRounds.Action Nat) :=
  [.enter 0 .samples 5 ⟨9, 900000000⟩, .put 0 1 true true, .clock 0 ⟨7, 100000000⟩, .put 0 2 true true,
    .clock 0 ⟨10, 899999999⟩, .put 0 3 true true, .clock 0 ⟨10, 900000000⟩]

def processorReadings : List (ProcessorRounds.Action Nat) :=
  [.enter .receiveSamples 0 ⟨9, 900000000⟩, .event .skip, .event (.clock ⟨7, 100000000⟩), .event .skip,
    .event (.clock ⟨10, 900000000⟩), .leave]

end Celix
