import Demonstrator.Arithmetic.Int32
import Demonstrator.Celix.Processor.Rounds
import Demonstrator.Transition.Runs

namespace Celix.ProcessorRounds

open Arithmetic Transition

variable {DataStoreService : Type}

def StoreCall.delivery (call : StoreCall DataStoreService) : DataStoreService × Sample × Float :=
  (call.dsService, call.result.sample, call.result.result1)

def Send.deliveries (send : Send DataStoreService) : List (DataStoreService × Sample × Float) :=
  send.stores.map fun dsService => (dsService, send.sample, send.sample.value1 + send.sample.value2)

structure Period.Forwards (period : Period DataStoreService) : Prop where
  sends : period.sends.map Send.sample = period.received
  calls : period.calls.map StoreCall.delivery = period.sends.flatMap Send.deliveries

def Position.left : Position → List Sample
  | .processing left _ | .sending left _ _ _ => left
  | .test | .freed => []

def Position.pending (stores : List DataStoreService) : Position → List (DataStoreService × Sample × Float)
  | .sending _ _ result i => (stores.drop i).map fun dsService => (dsService, result.sample, result.result1)
  | .test | .processing _ _ | .freed => []

def Position.uncounted : Position → Nat
  | .processing left j => j + left.length
  | .sending left j _ _ => j + 1 + left.length
  | .test | .freed => 0

structure Period.Forwarding (stores : List DataStoreService) (period : Period DataStoreService) : Prop where
  samples : period.sends.map Send.sample ++ period.position.left = period.received
  calls : period.calls.map StoreCall.delivery ++ period.position.pending stores =
    period.sends.flatMap Send.deliveries

def Period.Counted (period : Period DataStoreService) : Prop :=
  period.sampleCnt + Int32.ofNat period.position.uncounted = Int32.ofNat period.received.length

def Period.Limited (period : Period DataStoreService) : Prop :=
  period.routine = .receiveBursts → period.samplesPerSec = BURST_SAMPLES_PER_SEC ∧
    period.received.length < BURST_SAMPLES_PER_SEC.toInt + MAX_BURST_LEN

def Event.Allocated : Event → Prop
  | .callocFails => False
  | _ => True

def Event.Handed : Event → Prop
  | .takeAll _ (some samples) => samples.length ≤ MAX_BURST_LEN
  | _ => True

theorem Period.Forwarding.enter (stores : List DataStoreService) (routine : Processor.Routine) (samplesPerSec : Int32)
    (tsStart : ProducerRounds.Timespec) : (Period.enter routine samplesPerSec tsStart).Forwarding stores :=
  ⟨rfl, rfl⟩

theorem Period.Forwarding.moved {stores : List DataStoreService} {period next : Period DataStoreService} {event : Event}
    (forwarding : period.Forwarding stores) (allocated : event.Allocated) (moved : period.Moved stores event next) :
    next.Forwarding stores := by
  obtain ⟨samples, calls⟩ := forwarding
  cases moved with
  | idle success atTest =>
    rw [atTest] at samples calls
    exact ⟨samples, calls⟩
  | received success taken atTest =>
    rw [atTest] at samples calls
    refine ⟨?_, calls⟩
    rw [Position.left, List.append_nil] at samples
    exact congrArg (· ++ taken) samples
  | sends time atSample =>
    rw [atSample] at samples calls
    constructor
    · simpa [Position.left] using samples
    · simp only [Position.pending, List.append_nil] at calls
      simp [Position.pending, calls, Send.deliveries, processSample]
  | lost atSample => cases allocated
  | counted atEnd =>
    rw [atEnd] at samples calls
    exact ⟨samples, calls⟩
  | stored rc atStore found =>
    rename_i left j result i dsService
    rw [atStore] at samples calls
    refine ⟨samples, ?_⟩
    obtain ⟨inside, rfl⟩ := List.getElem?_eq_some_iff.mp found
    rw [Position.pending, List.drop_eq_getElem_cons inside, List.map_cons] at calls
    rw [List.map_append, List.append_assoc]
    exact calls
  | unlocked atStore noneLeft =>
    rw [atStore] at samples calls
    refine ⟨samples, ?_⟩
    rwa [Position.pending, List.drop_eq_nil_of_le (List.getElem?_eq_none_iff.mp noneLeft)] at calls
  | read tsEnd atClock =>
    rw [atClock] at samples calls
    exact ⟨samples, calls⟩

theorem Position.uncounted_next (sample : Sample) (left : List Sample) (j : Nat) :
    (Position.processing (sample :: left) j).uncounted = (Position.processing left (j + 1)).uncounted := by
  rw [uncounted, uncounted, List.length_cons]
  omega

theorem Period.Counted.atTest {period : Period DataStoreService} (counted : period.Counted)
    (atTest : period.position = .test) : period.sampleCnt = Int32.ofNat period.received.length := by
  unfold Counted at counted
  rw [atTest] at counted
  exact (Int32.add_zero _).symm.trans counted

theorem Period.Counted.moved {stores : List DataStoreService} {period next : Period DataStoreService} {event : Event}
    (counted : period.Counted) (moved : period.Moved stores event next) : next.Counted := by
  have before := counted
  unfold Counted at before ⊢
  cases moved with
  | idle success atTest =>
    rw [atTest] at before
    exact before
  | received success taken atTest =>
    simp [Period.receive, Position.uncounted, counted.atTest atTest, Int32.ofNat_add]
  | sends time atSample =>
    rw [atSample, Position.uncounted_next] at before
    exact before
  | lost atSample =>
    rw [atSample, Position.uncounted_next] at before
    exact before
  | counted atEnd =>
    rw [atEnd] at before
    exact (Int32.add_zero _).trans before
  | stored rc atStore found =>
    rw [atStore] at before
    exact before
  | unlocked atStore noneLeft =>
    rw [atStore] at before
    exact before
  | read tsEnd atClock =>
    rw [atClock] at before
    exact before

theorem Period.Counted.toInt {period : Period DataStoreService} (counted : period.Counted)
    (atTest : period.position = .test) (fits : period.received.length < 2 ^ 31) :
    period.sampleCnt.toInt = period.received.length := by
  rw [counted.atTest atTest]
  exact Int32.toInt_ofNat_of_lt fits

theorem Period.Limited.moved {stores : List DataStoreService} {period next : Period DataStoreService} {event : Event}
    (limited : period.Limited) (counted : period.Counted) (handed : event.Handed)
    (moved : period.Moved stores event next) : next.Limited := by
  cases moved with
  | received success taken atTest continues below given =>
    intro bursts
    obtain ⟨rate, limit⟩ := limited bursts
    have total : BURST_SAMPLES_PER_SEC.toInt = 250 := rfl
    have most : MAX_BURST_LEN = 25 := rfl
    have count := counted.toInt atTest (by omega)
    have room := Int32.lt_iff_toInt_lt.mp below
    have burst : taken.length ≤ MAX_BURST_LEN := by
      rcases given bursts with rfl | rfl
      · exact handed
      · exact Nat.zero_le _
    refine ⟨rate, ?_⟩
    rw [rate] at room
    simp only [Period.receive, List.length_append]
    omega
  | _ => exact limited

def Action.Allocated : Action DataStoreService → Prop
  | .event e => e.Allocated
  | _ => True

/-- What `processor_receive` and the queue promise: the samples per second, and no more samples than asked for. -/
def Action.Handed : Action DataStoreService → Prop
  | .enter .receiveBursts samplesPerSec _ => samplesPerSec = BURST_SAMPLES_PER_SEC
  | .event e => e.Handed
  | _ => True

theorem Position.pending_outside (stores : List DataStoreService) {period : Period DataStoreService}
    (outside : period.InSendResult = false) : period.position.pending stores = [] := by
  unfold Period.InSendResult at outside
  split at outside
  · cases outside
  · rename_i other
    cases at' : period.position with
    | sending left j result i => exact absurd at' (other left j result i)
    | _ => rfl

theorem Period.Forwarding.forwards {stores : List DataStoreService} {period : Period DataStoreService}
    (forwarding : period.Forwarding stores) (between : period.position = .test ∨ period.position = .freed) :
    period.Forwards := by
  obtain ⟨samples, calls⟩ := forwarding
  rcases between with at' | at'
  all_goals
    rw [at'] at samples calls
    exact ⟨(List.append_nil _).symm.trans samples, (List.append_nil _).symm.trans calls⟩

theorem forwarding_kept : Keeps Action.Allocated (@Period.Forwarding DataStoreService)
    (fun report => report.period.Forwards) where
  enter stores routine samplesPerSec tsStart _ := .enter stores routine samplesPerSec tsStart
  moved stores period event next forwarding allocated moved := forwarding.moved allocated moved
  shared stores stores' period outside forwarding := by
    refine ⟨forwarding.samples, ?_⟩
    have calls := forwarding.calls
    rwa [Position.pending_outside stores outside, ← Position.pending_outside stores' outside] at calls
  leave stores period throughputs forwarding atTest _ := forwarding.forwards (.inl atTest)

def Report.Exact (report : Report DataStoreService) : Prop :=
  report.period.routine = .receiveBursts →
    report.throughputs.burst_throughput.toNat = report.period.received.length

theorem counting_kept : Keeps Action.Handed
    (fun _ (period : Period DataStoreService) => period.Counted ∧ period.Limited) Report.Exact where
  enter stores routine samplesPerSec tsStart handed := by
    have positive : 0 < BURST_SAMPLES_PER_SEC.toInt + MAX_BURST_LEN := by decide
    refine ⟨rfl, ?_⟩
    rintro rfl
    exact ⟨handed, positive⟩
  moved stores period event next holds handed moved := ⟨holds.1.moved moved, holds.2.moved holds.1 handed moved⟩
  shared stores stores' period outside holds := holds
  leave stores period throughputs holds atTest _ := by
    intro bursts
    have limit := (holds.2 bursts).2
    have total : BURST_SAMPLES_PER_SEC.toInt = 250 := rfl
    have most : MAX_BURST_LEN = 25 := rfl
    have written : (throughputs.update period).burst_throughput = period.sampleCnt.toInt64.toUInt64 := by
      rw [Throughputs.update, bursts]
    rw [written]
    exact toNat_toUInt64_of_toInt (holds.1.toInt atTest (by omega))

/-- A burst of two samples: the first store fails, and between the samples the trackers change the list. -/
def changedStores (first second : Sample) : List (Action Nat) :=
  [.enter .receiveBursts 250 ⟨0, 0⟩, .event (.takeAll true (some [first, second])),
    .event (.process 7), .event (.store 5), .event (.store 0), .event .unlock,
    .dataStoreServiceAdded 3, .dataStoreServiceRemoved 1,
    .event (.process 8), .event (.store 0), .event (.store 0), .event .unlock,
    .event .processed, .event (.clock ⟨1, 0⟩), .leave]

end Celix.ProcessorRounds
