import Demonstrator.Celix.Producer.SampleRate
import Demonstrator.Celix.Producer.Throughput

namespace Celix.ProducerControl

open Arithmetic ProducerRounds Transition
open Producer (MAX_SAMPLES_PER_SEC)

variable {Sample : Type}

/-- Where a thread is in `producer_generate`, with its local `sampleRate`: at the test of its loop, before the test of
    the rate, in `producer_sendBursts`, after it, and in `producer_sendSamples`. -/
inductive Position where
  | test
  | check (sampleRate : Int32)
  | bursts (sampleRate : Int32)
  | between (sampleRate : Int32)
  | samples (sampleRate : Int32)
  deriving DecidableEq, Repr

structure ThreadData where
  sampleRate : UInt32
  single_throughput : UInt64
  burst_throughput : UInt64
  position : Position
  deriving DecidableEq, Repr

/-- The producer: its threads by queue service, in the order of the hash map, and their rounds at the queue. A call of
    `producer_setSampleRate` in progress has the threads that it has yet to reach. -/
structure Control (Sample : Type) where
  system : System Sample
  threads : Nat → Option ThreadData
  queueServices : List Nat
  setting : List (Int32 × List Nat)

def Control.initial : Control Sample := ⟨.initial, fun _ => none, [], []⟩

inductive Action (Sample : Type) where
  | queueServiceAdded (service : Nat)
  | queueServiceRemoved (service : Nat)
  | setSampleRate (rate : Int32) (order : List Nat)
  | setNext (call : Nat)
  | readRate (service : Nat)
  | skip (service : Nat)
  | round (action : ProducerRounds.Action Sample)

/-- Where a thread goes on when it enters a round. The rate is tested in the shared data, not in the local. -/
def ThreadData.enters (data : ThreadData) (kind : Kind) (samplesPerSec : Int32) : Option ThreadData :=
  match data.position, kind with
  | .check sampleRate, .bursts =>
    if 0 < data.sampleRate ∧ samplesPerSec = sampleRate then some { data with position := .bursts sampleRate } else none
  | .between sampleRate, .samples =>
    if samplesPerSec = sampleRate then some { data with position := .samples sampleRate } else none
  | _, _ => none

def ThreadData.leaves (data : ThreadData) (round : Round Sample) : Option ThreadData :=
  match data.position, round.kind with
  | .bursts sampleRate, .bursts => some { data with
      burst_throughput := round.sampleCnt.toInt64.toUInt64
      position := .between sampleRate }
  | .samples _, .samples => some { data with
      single_throughput := round.sampleCnt.toInt64.toUInt64
      position := .test }
  | _, _ => none

def Control.follow (s : Control Sample) : ProducerRounds.Action Sample → Option (Nat → Option ThreadData)
  | .enter thread kind samplesPerSec _ =>
    ((s.threads thread).bind fun data => data.enters kind samplesPerSec).map fun data =>
      Function.update s.threads thread (some data)
  | .leave thread =>
    ((s.threads thread).bind fun data => (s.system.rounds thread).bind data.leaves).map fun data =>
      Function.update s.threads thread (some data)
  | _ => some s.threads

def Control.write (s : Control Sample) (service : Nat) (data : ThreadData) : Control Sample :=
  { s with threads := Function.update s.threads service (some data) }

def step (s : Control Sample) : Action Sample → Option (Control Sample)
  | .queueServiceAdded service =>
    match s.threads service with
    | some _ => none
    | none =>
      -- the write lock waits for the calls that hold the read lock
      if s.setting = [] then some { s with
        threads := Function.update s.threads service (some ⟨MAX_SAMPLES_PER_SEC.toUInt32, 0, 0, .test⟩)
        queueServices := s.queueServices ++ [service] }
      else none
  | .queueServiceRemoved service =>
    match s.threads service with
    | none => none
    | some data =>
      -- the join under the write lock waits until the thread has left its loop
      if s.setting = [] ∧ data.position = .test then some { s with
        threads := Function.update s.threads service none
        queueServices := s.queueServices.erase service }
      else none
  | .setSampleRate rate order =>
    if order.Perm s.queueServices then some { s with setting := s.setting ++ [(rate, order)] } else none
  | .setNext call =>
    match s.setting[call]? with
    | none => none
    | some (_, []) => some { s with setting := s.setting.eraseIdx call }
    | some (rate, service :: rest) => some { s with
        threads := Function.update s.threads service
          ((s.threads service).map fun data => { data with sampleRate := rate.toUInt32 })
        setting := s.setting.set call (rate, rest) }
  | .readRate service =>
    match s.threads service with
    | none => none
    | some data =>
      if data.position = .test then
        some (s.write service { data with position := .check data.sampleRate.toInt32 })
      else none
  | .skip service =>
    match s.threads service with
    | none => none
    | some data =>
      match data.position with
      | .check _ =>
        if 0 < data.sampleRate then none else some (s.write service { data with position := .test })
      | _ => none
  | .round action =>
    (s.follow action).bind fun threads =>
      (ProducerRounds.step (fun _ => true) s.system action).map fun system => { s with system, threads }

def getMaxSampleRate : Int32 := MAX_SAMPLES_PER_SEC

/-- The sum with the `unsigned long` is one, and cut to an `int`. -/
def addThroughput (sampleRate : Int32) (data : ThreadData) : Int32 :=
  (sampleRate.toInt64.toUInt64 + data.single_throughput).toUInt32.toInt32

def getSampleRate (threads : List ThreadData) : Int32 :=
  let sampleRate := threads.foldl addThroughput 0
  if 0 < threads.length then sampleRate / Int32.ofNat threads.length else sampleRate

def Position.sampleRate : Position → Option Int32
  | .test => none
  | .check sampleRate | .bursts sampleRate | .between sampleRate | .samples sampleRate => some sampleRate

structure ThreadData.Within (data : ThreadData) : Prop where
  sampleRate : data.sampleRate.toNat ≤ 500
  read : ∀ sampleRate, data.position.sampleRate = some sampleRate → sampleRate.toInt ≤ 500
  reported : data.single_throughput.toNat ≤ 500

structure Round.Within (round : Round Sample) : Prop where
  counted : round.Counted
  rate : round.samplesPerSec.toInt ≤ 500

structure Within (s : Control Sample) : Prop where
  threads : ∀ service data, s.threads service = some data → data.Within
  rounds : ∀ thread round, s.system.rounds thread = some round → round.kind = .samples → Round.Within round
  setting : ∀ setting ∈ s.setting, setting.1.toUInt32.toNat ≤ 500

def Asks : Action Sample → Prop
  | .setSampleRate rate _ => 0 ≤ rate ∧ rate ≤ MAX_SAMPLES_PER_SEC
  | _ => True

theorem toNat_rate {rate : Int32} (asked : 0 ≤ rate ∧ rate ≤ MAX_SAMPLES_PER_SEC) : rate.toUInt32.toNat ≤ 500 := by
  have low := toInt_nonneg.mp asked.1
  have high : rate.toInt ≤ 500 := Int32.le_iff_toInt_le.mp asked.2
  obtain ⟨count, counted⟩ := Int.eq_ofNat_of_zero_le low
  rw [toNat_toUInt32_of_toInt counted]
  omega

theorem ThreadData.Within.enters {data next : ThreadData} {kind : Kind} {samplesPerSec : Int32} (within : data.Within)
    (entered : data.enters kind samplesPerSec = some next) : next.Within ∧ samplesPerSec.toInt ≤ 500 := by
  unfold ThreadData.enters at entered
  split at entered
  · rename_i sampleRate here
    split at entered <;> cases entered
    rename_i passed
    have read := within.read sampleRate (by simp [here, Position.sampleRate])
    refine ⟨⟨within.sampleRate, ?_, within.reported⟩, passed.2 ▸ read⟩
    rintro _ ⟨⟩
    exact read
  · rename_i sampleRate here
    split at entered <;> cases entered
    rename_i same
    have read := within.read sampleRate (by simp [here, Position.sampleRate])
    refine ⟨⟨within.sampleRate, ?_, within.reported⟩, same ▸ read⟩
    rintro _ ⟨⟩
    exact read
  · cases entered

theorem Round.Within.throughput {round : Round Sample} (within : Round.Within round) (kind : round.kind = .samples) :
    round.sampleCnt.toInt64.toUInt64.toNat ≤ 500 := by
  have bounded := within.counted.bounded
  have rate := within.rate
  rw [kind] at bounded
  simp only [Bounded] at bounded
  rw [within.counted.throughput]
  omega

theorem ThreadData.Within.leaves {data next : ThreadData} {round : Round Sample} (within : data.Within)
    (counted : round.kind = .samples → Round.Within round) (left : data.leaves round = some next) : next.Within := by
  unfold ThreadData.leaves at left
  split at left
  · rename_i sampleRate here _
    cases left
    refine ⟨within.sampleRate, ?_, within.reported⟩
    rintro _ ⟨⟩
    exact within.read sampleRate (by simp [here, Position.sampleRate])
  · rename_i sampleRate _ kind
    cases left
    refine ⟨within.sampleRate, ?_, (counted kind).throughput kind⟩
    rintro _ ⟨⟩
  · cases left

theorem within_update {threads : Nat → Option ThreadData} (within : ∀ service data, threads service = some data → data.Within)
    {changed : Nat} {next : ThreadData} (written : next.Within) :
    ∀ service data, Function.update threads changed (some next) service = some data → data.Within := by
  intro service data found
  rcases update_some_iff.mp found with ⟨_, rfl⟩ | ⟨_, before⟩
  · exact written
  · exact within service data before

theorem Within.follow {s : Control Sample} {action : ProducerRounds.Action Sample} {threads : Nat → Option ThreadData}
    (within : Within s) (followed : s.follow action = some threads) :
    (∀ service data, threads service = some data → data.Within) ∧
      ∀ thread kind samplesPerSec tsStart, action = .enter thread kind samplesPerSec tsStart →
        samplesPerSec.toInt ≤ 500 := by
  cases action with
  | enter thread kind samplesPerSec tsStart =>
    simp only [Control.follow, Option.map_eq_some_iff, Option.bind_eq_some_iff] at followed
    obtain ⟨next, ⟨data, found, entered⟩, rfl⟩ := followed
    obtain ⟨written, rate⟩ := (within.threads thread data found).enters entered
    refine ⟨within_update within.threads written, ?_⟩
    rintro _ _ _ _ ⟨⟩
    exact rate
  | leave thread =>
    simp only [Control.follow, Option.map_eq_some_iff, Option.bind_eq_some_iff] at followed
    obtain ⟨next, ⟨data, found, round, present, left⟩, rfl⟩ := followed
    have written := (within.threads thread data found).leaves (within.rounds thread round present) left
    refine ⟨within_update within.threads written, ?_⟩
    rintro _ _ _ _ ⟨⟩
  | _ =>
    cases followed
    refine ⟨within.threads, ?_⟩
    rintro _ _ _ _ ⟨⟩

theorem rounds_step {s t : System Sample} {action : ProducerRounds.Action Sample}
    (within : ∀ thread round, s.rounds thread = some round → round.kind = .samples → Round.Within round)
    (entered : ∀ thread kind samplesPerSec tsStart, action = .enter thread kind samplesPerSec tsStart →
      samplesPerSec.toInt ≤ 500)
    (h : ProducerRounds.step (fun _ => true) s action = some t) :
    ∀ thread round, t.rounds thread = some round → round.kind = .samples → Round.Within round := by
  intro thread round present kind
  cases stepped_of_step h with
  | entered =>
    rcases update_some_iff.mp present with ⟨_, rfl⟩ | ⟨_, before⟩
    · exact ⟨enter_counted _ _ _, entered _ _ _ _ rfl⟩
    · exact within thread round before kind
  | sentSample found single continues =>
    rcases update_some_iff.mp present with ⟨_, rfl⟩ | ⟨_, before⟩
    · have earlier := within _ _ found single
      refine ⟨sendSample_counted _ _ _ _ _ earlier.counted single continues, ?_⟩
      simp only [sendSample]
      exact earlier.rate
    · exact within thread round before kind
  | sentBurst found bursts continues =>
    rcases update_some_iff.mp present with ⟨_, rfl⟩ | ⟨_, before⟩
    · simp only [sendBurst] at kind
      cases bursts.symm.trans kind
    · exact within thread round before kind
  | read found called =>
    rcases update_some_iff.mp present with ⟨_, rfl⟩ | ⟨_, before⟩
    · obtain ⟨⟨counted, bounded⟩, rate⟩ := within _ _ found kind
      exact ⟨⟨counted, bounded⟩, rate⟩
    · exact within thread round before kind
  | left found => exact within thread round (update_none_iff.mp present).2 kind
  | elsewhere => exact within thread round present kind

theorem within_step (s : Control Sample) (action : Action Sample) (t : Control Sample) (within : Within s)
    (asked : Asks action) (h : step s action = some t) : Within t := by
  cases action with
  | queueServiceAdded service =>
    simp only [step] at h
    split at h
    · cases h
    · split at h <;> cases h
      refine ⟨within_update within.threads ⟨by decide, ?_, by decide⟩, within.rounds, within.setting⟩
      rintro _ ⟨⟩
  | queueServiceRemoved service =>
    simp only [step] at h
    split at h
    · cases h
    · split at h <;> cases h
      refine ⟨fun other data found => ?_, within.rounds, within.setting⟩
      exact within.threads other data (update_none_iff.mp found).2
  | setSampleRate rate order =>
    simp only [step] at h
    split at h <;> cases h
    refine ⟨within.threads, within.rounds, fun setting member => ?_⟩
    rcases List.mem_append.mp member with before | new
    · exact within.setting setting before
    · cases List.mem_singleton.mp new
      exact toNat_rate asked
  | setNext call =>
    simp only [step] at h
    split at h
    · cases h
    · cases h
      exact ⟨within.threads, within.rounds, fun setting member => within.setting setting (List.mem_of_mem_eraseIdx member)⟩
    · rename_i rate service rest found
      cases h
      have low := within.setting _ (List.mem_of_getElem? found)
      refine ⟨fun other data present => ?_, within.rounds, fun setting member => ?_⟩
      · by_cases same : other = service
        · subst same
          simp only [Function.update_self, Option.map_eq_some_iff] at present
          obtain ⟨before, here, rfl⟩ := present
          have earlier := within.threads other before here
          exact ⟨low, earlier.read, earlier.reported⟩
        · simp only [Function.update_of_ne same] at present
          exact within.threads other data present
      · rcases List.mem_or_eq_of_mem_set member with before | new
        · exact within.setting setting before
        · rw [new]
          exact low
  | readRate service =>
    simp only [step] at h
    split at h
    · cases h
    · rename_i data found
      split at h <;> cases h
      have earlier := within.threads service data found
      refine ⟨within_update within.threads ⟨earlier.sampleRate, ?_, earlier.reported⟩, within.rounds, within.setting⟩
      rintro _ ⟨⟩
      have rate := earlier.sampleRate
      rw [toInt_toInt32_of_lt (by omega)]
      omega
  | skip service =>
    simp only [step] at h
    split at h
    · cases h
    · rename_i data found
      have earlier := within.threads service data found
      split at h
      · split at h <;> cases h
        refine ⟨within_update within.threads ⟨earlier.sampleRate, ?_, earlier.reported⟩, within.rounds, within.setting⟩
        rintro _ ⟨⟩
      · cases h
  | round action =>
    simp only [step, Option.bind_eq_some_iff, Option.map_eq_some_iff] at h
    obtain ⟨threads, followed, system, moved, rfl⟩ := h
    obtain ⟨kept, entered⟩ := within.follow followed
    exact ⟨kept, rounds_step within.rounds entered moved, within.setting⟩

theorem toInt_addThroughput {sampleRate : Int32} {data : ThreadData} {count : Nat} (counted : sampleRate.toInt = count)
    (fits : count + data.single_throughput.toNat < 2 ^ 31) :
    (addThroughput sampleRate data).toInt = (count + data.single_throughput.toNat : Nat) := by
  have sum : (sampleRate.toInt64.toUInt64 + data.single_throughput).toUInt32.toNat =
      count + data.single_throughput.toNat := by
    rw [UInt64.toNat_toUInt32, UInt64.toNat_add, toNat_toUInt64_of_toInt counted]
    omega
  rw [addThroughput, toInt_toInt32_of_lt (by omega), sum]

theorem toInt_foldl {threads : List ThreadData} (within : ∀ data ∈ threads, data.single_throughput.toNat ≤ 500)
    {sampleRate : Int32} {count : Nat} (counted : sampleRate.toInt = count)
    (fits : count + threads.length * 500 < 2 ^ 31) :
    ∃ total : Nat, (threads.foldl addThroughput sampleRate).toInt = total ∧ total ≤ count + threads.length * 500 := by
  induction threads generalizing sampleRate count with
  | nil => exact ⟨count, counted, Nat.le_add_right _ _⟩
  | cons data rest ih =>
    rw [List.forall_mem_cons] at within
    rw [List.length_cons] at fits ⊢
    have here := within.1
    have added : (addThroughput sampleRate data).toInt = (count + data.single_throughput.toNat : Nat) :=
      toInt_addThroughput counted (by omega)
    obtain ⟨total, summed, most⟩ := ih within.2 added (by omega)
    exact ⟨total, summed, by omega⟩

theorem getSampleRate_within {threads : List ThreadData}
    (within : ∀ data ∈ threads, data.single_throughput.toNat ≤ 500) (few : threads.length * 500 < 2 ^ 31) :
    0 ≤ getSampleRate threads ∧ getSampleRate threads ≤ getMaxSampleRate := by
  obtain ⟨total, summed, most⟩ := toInt_foldl within (show (0 : Int32).toInt = (0 : Nat) from rfl) (by omega)
  rw [toInt_nonneg, Int32.le_iff_toInt_le]
  change 0 ≤ (getSampleRate threads).toInt ∧ (getSampleRate threads).toInt ≤ 500
  unfold getSampleRate
  split
  · have size : (Int32.ofNat threads.length).toInt = threads.length := Int32.toInt_ofNat_of_lt (by omega)
    have positive : Int32.ofNat threads.length ≠ -1 := by
      intro same
      rw [same] at size
      change (-1 : Int) = threads.length at size
      omega
    have quotient : total / threads.length ≤ 500 := Nat.div_le_of_le_mul (by omega)
    rw [Int32.toInt_div_of_ne_right _ _ positive, summed, size, ← Int.ofNat_tdiv]
    exact ⟨Int.natCast_nonneg _, Int.ofNat_le.mpr quotient⟩
  · rw [summed]
    omega

theorem within_initial : Within (Control.initial : Control Sample) where
  threads service data found := by cases found
  rounds thread round present := by cases present
  setting setting member := by cases member

/-- As long as the servlet asks for parts of the maximum, the rate that a producer reports to the aggregator is one of
    its parts too: in every state, whatever its threads are doing, and in any order of its hash map. -/
theorem sample_rate_within_maximum (actions : List (Action Sample)) (s : Control Sample)
    (asked : ∀ action ∈ actions, Asks action) (run : exec step .initial actions = some s) (order : List Nat)
    (tracked : order.Perm s.queueServices) (few : s.queueServices.length * 500 < 2 ^ 31) :
    0 ≤ getSampleRate (order.filterMap s.threads) ∧ getSampleRate (order.filterMap s.threads) ≤ getMaxSampleRate := by
  have within : Within s := meets_invariant within_step within_initial (meets_of_forall _ asked) run
  apply getSampleRate_within
  · intro data member
    obtain ⟨service, _, found⟩ := List.mem_filterMap.mp member
    exact (within.threads service data found).reported
  · have shorter : (order.filterMap s.threads).length ≤ s.queueServices.length :=
      tracked.length_eq ▸ List.length_filterMap_le _ _
    exact Nat.lt_of_le_of_lt (Nat.mul_le_mul_right 500 shorter) few

/-- One iteration of a thread: a burst of two samples, and then a single one, each in a second of its own. -/
def oneIteration : List (Action Nat) :=
  [.queueServiceAdded 0, .readRate 0, .round (.enter 0 .bursts 500 ⟨0, 0⟩),
    .round (.putAll 0 [1, 2] everyCall everyCall), .round (.clock 0 ⟨1, 0⟩), .round (.leave 0),
    .round (.enter 0 .samples 500 ⟨1, 0⟩), .round (.put 0 3 true true), .round (.clock 0 ⟨2, 0⟩), .round (.leave 0)]

theorem iteration_reports_one : ∃ s, exec step .initial oneIteration = some s ∧
    getSampleRate (s.queueServices.filterMap s.threads) = 1 ∧
    0 ≤ getSampleRate (s.queueServices.filterMap s.threads) := by
  have ran : (exec step .initial oneIteration).map
      (fun s => (s.queueServices, getSampleRate (s.queueServices.filterMap s.threads))) = some ([0], 1) := by
    decide +kernel
  obtain ⟨s, run, same⟩ := Option.map_eq_some_iff.mp ran
  obtain ⟨services, rate⟩ := Prod.mk.inj same
  have asked : ∀ action ∈ oneIteration, Asks action := by simp [oneIteration, Asks]
  have few : s.queueServices.length * 500 < 2 ^ 31 := by
    rw [services]
    decide
  exact ⟨s, run, rate, (sample_rate_within_maximum oneIteration s asked run _ (List.Perm.refl _) few).1⟩

/-- Every thread has seen, or will see, the rate zero before it enters a round, and no other rate is being set. -/
structure Idle (s : Control Sample) : Prop where
  threads : ∀ service data, s.threads service = some data →
    data.sampleRate = 0 ∧ (data.position = .test ∨ ∃ sampleRate, data.position = .check sampleRate)
  rounds : ∀ thread, s.system.rounds thread = none
  setting : ∀ setting ∈ s.setting, setting.1 = 0

def Undisturbed : Action Sample → Prop
  | .queueServiceAdded _ | .queueServiceRemoved _ => False
  | .setSampleRate rate _ => rate = 0
  | .setNext _ | .readRate _ | .skip _ | .round _ => True

def Control.singles (s : Control Sample) (service : Nat) : Option UInt64 :=
  (s.threads service).map ThreadData.single_throughput

structure Frozen (start s : Control Sample) : Prop where
  idle : Idle s
  singles : s.singles = start.singles
  reports : s.system.reports = start.system.reports

theorem singles_write (s : Control Sample) {service : Nat} {data next : ThreadData}
    (found : s.threads service = some data) (same : next.single_throughput = data.single_throughput) :
    (s.write service next).singles = s.singles := by
  funext other
  by_cases here : other = service
  · subst here
    simp [Control.singles, Control.write, found, same]
  · simp [Control.singles, Control.write, here]

theorem Idle.write {s : Control Sample} (idle : Idle s) {service : Nat} {next : ThreadData} (zero : next.sampleRate = 0)
    (before : next.position = .test ∨ ∃ sampleRate, next.position = .check sampleRate) :
    Idle (s.write service next) where
  threads other data found := by
    rcases update_some_iff.mp found with ⟨_, rfl⟩ | ⟨_, earlier⟩
    · exact ⟨zero, before⟩
    · exact idle.threads other data earlier
  rounds := idle.rounds
  setting := idle.setting

theorem frozen_step {start : Control Sample} (s : Control Sample) (action : Action Sample) (t : Control Sample)
    (frozen : Frozen start s) (undisturbed : Undisturbed action) (h : step s action = some t) : Frozen start t := by
  have idle := frozen.idle
  cases action with
  | queueServiceAdded | queueServiceRemoved => cases undisturbed
  | setSampleRate rate order =>
    simp only [step] at h
    split at h <;> cases h
    refine ⟨⟨idle.threads, idle.rounds, fun setting member => ?_⟩, frozen.singles, frozen.reports⟩
    rcases List.mem_append.mp member with before | new
    · exact idle.setting setting before
    · cases List.mem_singleton.mp new
      exact undisturbed
  | setNext call =>
    simp only [step] at h
    split at h
    · cases h
    · cases h
      refine ⟨⟨idle.threads, idle.rounds, fun setting member => ?_⟩, frozen.singles, frozen.reports⟩
      exact idle.setting setting (List.mem_of_mem_eraseIdx member)
    · rename_i rate service rest found
      cases h
      have zero : rate = 0 := idle.setting _ (List.mem_of_getElem? found)
      subst zero
      refine ⟨⟨fun other data present => ?_, idle.rounds, fun setting member => ?_⟩, Eq.trans ?_ frozen.singles,
        frozen.reports⟩
      · by_cases same : other = service
        · subst same
          simp only [Function.update_self, Option.map_eq_some_iff] at present
          obtain ⟨before, here, rfl⟩ := present
          exact ⟨rfl, (idle.threads other before here).2⟩
        · simp only [Function.update_of_ne same] at present
          exact idle.threads other data present
      · rcases List.mem_or_eq_of_mem_set member with before | new
        · exact idle.setting setting before
        · rw [new]
      · funext other
        by_cases same : other = service
        · subst same
          cases present : s.threads other <;> simp [Control.singles, present]
        · simp [Control.singles, same]
  | readRate service =>
    simp only [step] at h
    split at h
    · cases h
    · rename_i data found
      split at h <;> cases h
      obtain ⟨zero, _⟩ := idle.threads service data found
      refine ⟨idle.write zero (.inr ⟨_, rfl⟩), Eq.trans ?_ frozen.singles, frozen.reports⟩
      exact singles_write s found rfl
  | skip service =>
    simp only [step] at h
    split at h
    · cases h
    · rename_i data found
      split at h
      · split at h <;> cases h
        obtain ⟨zero, _⟩ := idle.threads service data found
        refine ⟨idle.write zero (.inl rfl), Eq.trans ?_ frozen.singles, frozen.reports⟩
        exact singles_write s found rfl
      · cases h
  | round action =>
    simp only [step, Option.bind_eq_some_iff, Option.map_eq_some_iff] at h
    obtain ⟨threads, followed, system, moved, rfl⟩ := h
    cases action with
    | enter thread kind samplesPerSec tsStart =>
      -- the test of the rate keeps the thread out of its rounds
      simp only [Control.follow, Option.map_eq_some_iff, Option.bind_eq_some_iff] at followed
      obtain ⟨next, ⟨data, found, entered⟩, _⟩ := followed
      obtain ⟨zero, position⟩ := idle.threads thread data found
      unfold ThreadData.enters at entered
      rcases position with here | ⟨sampleRate, here⟩ <;> rw [here] at entered
      · cases entered
      · cases kind <;> simp [zero] at entered
    | other section' =>
      cases followed
      cases stepped_of_step moved with
      | elsewhere => exact ⟨⟨idle.threads, idle.rounds, idle.setting⟩, frozen.singles, frozen.reports⟩
    | put thread | putAll thread | clock thread | leave thread =>
      simp [ProducerRounds.step, idle.rounds thread] at moved

theorem getSampleRate_of_singles {left right : List ThreadData}
    (same : left.map ThreadData.single_throughput = right.map ThreadData.single_throughput) :
    getSampleRate left = getSampleRate right := by
  have sums : ∀ threads : List ThreadData, threads.foldl addThroughput 0 =
      (threads.map ThreadData.single_throughput).foldl
        (fun sampleRate throughput => (sampleRate.toInt64.toUInt64 + throughput).toUInt32.toInt32) 0 := by
    intro threads
    rw [List.foldl_map]
    rfl
  have lengths := congrArg List.length same
  rw [List.length_map, List.length_map] at lengths
  simp only [getSampleRate, sums, same, lengths]

end Celix.ProducerControl
