import Demonstrator.Arithmetic.Int32
import Demonstrator.Celix.Producer.Rounds
import Demonstrator.Transition.Updates

namespace Celix.ProducerRounds

open Arithmetic Transition

variable {Sample : Type}

theorem put_appended (calloc add : Bool) (sample : Sample) (q : SampleQueue Sample) :
    (appendedBetween q (q.put calloc add sample false).1).length =
      if (q.put calloc add sample false).2.1 then 1 else 0 := by
  unfold SampleQueue.put appendedBetween
  cases live : q.queue with
  | none => simp [live]
  | some items =>
    by_cases room : SampleQueue.HasRoom items
    · cases calloc <;> cases add <;> simp [live, room]
    · simp [live, room]

theorem putAll_appended (calloc add : Nat → Bool) (burst : List Sample) (q : SampleQueue Sample) :
    (appendedBetween q (q.putAll calloc add burst 0).queue).length = (q.putAll calloc add burst 0).samplesTaken ∧
      (q.putAll calloc add burst 0).samplesTaken ≤ burst.length := by
  unfold SampleQueue.putAll appendedBetween
  cases live : q.queue with
  | none => simp [live]
  | some items =>
    obtain ⟨added, adds⟩ := SampleQueue.putAllLoop_adds calloc add 0 burst
      ⟨items, q.currentQueueSize, 0, [], .success⟩
    have most := adds.sublist.length_le
    simp [adds.items, adds.samplesAdded, most]

def Bounded (kind : Kind) (samplesPerSec : Int32) (count longest : Nat) : Prop :=
  match kind with
  | .samples => (count : Int) ≤ max 0 samplesPerSec.toInt
  | .bursts => if 0 < samplesPerSec then (count : Int) < samplesPerSec.toInt + longest else count = 0

structure Round.Counted (round : Round Sample) : Prop where
  counted : round.sampleCnt.toInt = round.appended.length
  bounded : Bounded round.kind round.samplesPerSec round.appended.length round.longest

def Report.Exact (report : Report Sample) : Prop :=
  report.throughput.toNat = report.appended.length ∧
    Bounded report.kind report.samplesPerSec report.throughput.toNat report.longest

/-- No burst takes the count of its round beyond the range of an `int`. -/
def CountFits (service : Nat → Bool) (s : System Sample) : Action Sample → Prop
  | .putAll thread burst calloc add => ∀ round, s.rounds thread = some round → service thread = true →
      round.sampleCnt.toInt + (s.queue.putAll calloc add burst 0).samplesTaken < 2 ^ 31
  | _ => True

structure Accounted (s : System Sample) : Prop where
  rounds : ∀ thread round, s.rounds thread = some round → round.Counted
  reports : ∀ report ∈ s.reports, report.Exact

theorem enter_counted (kind : Kind) (samplesPerSec : Int32) (tsStart : Timespec) :
    (Round.enter kind samplesPerSec tsStart : Round Sample).Counted where
  counted := rfl
  bounded := by
    cases kind with
    | samples => exact Int.le_max_left 0 _
    | bursts =>
      simp only [Bounded, Round.enter, List.length_nil]
      split
      · rename_i positive
        rw [Int32.lt_iff_toInt_lt, Int32.toInt_zero] at positive
        omega
      · exact True.intro

theorem sendSample_counted (service : Bool) (sample : Sample) (calloc add : Bool) (q : SampleQueue Sample)
    {round : Round Sample} (counted : round.Counted) (kind : round.kind = .samples)
    (continues : round.Continues) : (sendSample service sample calloc add q round).2.Counted := by
  cases service with
  | false => exact ⟨counted.counted, counted.bounded⟩
  | true =>
    have below := Int32.lt_iff_toInt_lt.mp continues.1
    have top := round.samplesPerSec.toInt_lt
    have count := counted.counted
    have one : (1 : Int32).toInt = 1 := rfl
    have grown := put_appended calloc add sample q
    constructor
    · cases taken : (q.put calloc add sample false).2.1 with
      | true =>
        rw [taken] at grown
        simp only [sendSample, taken, if_true, List.length_append, grown]
        rw [toInt_add_of_range (by omega) (by omega)]
        omega
      | false =>
        rw [taken] at grown
        simp only [sendSample, taken, if_true, List.length_append, grown]
        simpa using count
    · simp only [sendSample, if_true, Bounded, kind, List.length_append, grown]
      split <;> omega

theorem sendBurst_counted (service : Bool) (burst : List Sample) (calloc add : Nat → Bool)
    (q : SampleQueue Sample) {round : Round Sample} (counted : round.Counted) (kind : round.kind = .bursts)
    (continues : round.Continues)
    (fits : service = true → round.sampleCnt.toInt + (q.putAll calloc add burst 0).samplesTaken < 2 ^ 31) :
    (sendBurst service burst calloc add q round).2.Counted := by
  have below := Int32.lt_iff_toInt_lt.mp continues.1
  have count := counted.counted
  have positive : 0 < round.samplesPerSec := by
    rw [Int32.lt_iff_toInt_lt, Int32.toInt_zero]
    omega
  have before := counted.bounded
  simp only [Bounded, kind, positive, if_true] at before
  cases service with
  | false =>
    refine ⟨count, ?_⟩
    simp only [sendBurst, Bool.false_eq_true, if_false, Bounded, kind, positive, if_true]
    omega
  | true =>
    have room := fits rfl
    obtain ⟨grown, most⟩ := putAll_appended calloc add burst q
    have stored : (Int32.ofNat (q.putAll calloc add burst 0).samplesTaken).toInt =
        (q.putAll calloc add burst 0).samplesTaken := Int32.toInt_ofNat_of_lt (by omega)
    constructor
    · simp only [sendBurst, if_true, List.length_append, grown]
      rw [toInt_add_of_range (by omega) (by omega)]
      omega
    -- the count was below the samples per second, so only this burst can lie beyond
    · simp only [sendBurst, if_true, Bounded, kind, positive, List.length_append, grown]
      omega

theorem Round.Counted.throughput {round : Round Sample} (counted : round.Counted) :
    round.sampleCnt.toInt64.toUInt64.toNat = round.appended.length :=
  toNat_toUInt64_of_toInt counted.counted

theorem Accounted.setRound {s : System Sample} (accounted : Accounted s) (queue : SampleQueue Sample)
    (thread : Nat) {round : Round Sample} (counted : round.Counted) :
    Accounted ({ s with queue }.setRound thread (some round)) where
  rounds := by
    intro other found present
    rcases update_some_iff.mp present with ⟨_, rfl⟩ | ⟨_, before⟩
    · exact counted
    · exact accounted.rounds other found before
  reports := accounted.reports

theorem accounted_step (service : Nat → Bool) (s : System Sample) (action : Action Sample) (t : System Sample)
    (accounted : Accounted s) (fits : CountFits service s action) (h : step service s action = some t) :
    Accounted t := by
  cases stepped_of_step h with
  | entered => exact accounted.setRound s.queue _ (enter_counted _ _ _)
  | sentSample present kind continues =>
    exact accounted.setRound _ _ (sendSample_counted _ _ _ _ _ (accounted.rounds _ _ present) kind continues)
  | sentBurst present kind continues =>
    exact accounted.setRound _ _ (sendBurst_counted _ _ _ _ _ (accounted.rounds _ _ present) kind continues
      (fits _ present))
  | read present called =>
    have counted := accounted.rounds _ _ present
    exact accounted.setRound s.queue _ ⟨counted.counted, counted.bounded⟩
  | left present =>
    have counted := accounted.rounds _ _ present
    constructor
    · intro other found still
      exact accounted.rounds other found (update_none_iff.mp still).2
    · intro report listed
      rcases List.mem_append.mp listed with before | last
      · exact accounted.reports report before
      · rw [List.mem_singleton.mp last]
        refine ⟨counted.throughput, ?_⟩
        rw [counted.throughput]
        exact counted.bounded
  | elsewhere => exact ⟨accounted.rounds, accounted.reports⟩

theorem accounted_initial : Accounted (System.initial : System Sample) where
  rounds := by
    intro thread round present
    cases present
  reports := by
    intro report listed
    cases listed

/-- In every run in which no count leaves the range of an `int`, every round writes the number of samples
    that the queue has appended from it, within the limits of its kind. -/
theorem throughput_counts_appended (service : Nat → Bool) (actions : List (Action Sample))
    (final : System Sample) (fits : Meets (step service) (CountFits service) System.initial actions)
    (run : exec (step service) System.initial actions = some final) :
    ∀ report ∈ final.reports, report.Exact := by
  exact (meets_invariant (accounted_step service) accounted_initial fits run).reports

/-- Two threads on one queue: a round of single samples that meets its rate, and a burst that exceeds it. -/
def sharedRun : List (Action Nat) :=
  [.enter 0 .samples 1 ⟨0, 0⟩, .enter 1 .bursts 1 ⟨0, 0⟩, .putAll 1 [11, 12] (fun _ => true) (fun _ => true),
    .put 0 21 true true, .clock 1 ⟨0, 500⟩, .clock 0 ⟨0, 900⟩, .leave 0, .leave 1]

theorem throughput_counts_appended_shared : ∃ final, exec (step fun _ => true) System.initial sharedRun = some final ∧
    final.reports = [⟨0, .samples, 1, 1, [21], 0⟩, ⟨1, .bursts, 1, 2, [11, 12], 2⟩] ∧
    ∀ report ∈ final.reports, report.Exact := by
  have fits : Meets (step fun _ => true) (CountFits fun _ => true) System.initial sharedRun := by
    refine meets_cons True.intro rfl (meets_cons True.intro rfl (meets_cons ?_ rfl (meets_cons True.intro rfl
      (meets_cons True.intro rfl (meets_cons True.intro rfl (meets_cons True.intro rfl
      (meets_cons True.intro rfl True.intro)))))))
    intro round present _
    cases present
    decide
  exact ⟨_, rfl, rfl, throughput_counts_appended (fun _ => true) sharedRun _ fits rfl⟩

def everyCall : Nat → Bool := fun _ => true

def tenSamples : List Nat := [1, 2, 3, 4, 5, 6, 7, 8, 9, 10]

def drainedPass : List (Action Nat) :=
  [.putAll 0 tenSamples everyCall everyCall, .other (.takeAll .zero 0 10), .clock 0 ⟨0, 0⟩]

def overflowingRun : List (Action Nat) :=
  .enter 0 .bursts 2147483647 ⟨0, 0⟩ :: ((List.replicate 214748364 drainedPass).flatten ++
    [.putAll 0 tenSamples everyCall everyCall, .clock 0 ⟨1, 0⟩, .leave 0])

def burstRound (tsDiff : Timespec) (sampleCnt : Int32) (called : Bool) (appended : List Nat) (longest : Nat) :
    Round Nat :=
  ⟨.bursts, 2147483647, ⟨0, 0⟩, tsDiff, sampleCnt, called, appended, longest⟩

structure Drained (s : System Nat) (count : Nat) : Prop where
  queue : s.queue.queue = some []
  round : ∃ appended longest, appended.length = count ∧
    s.rounds 0 = some (burstRound ⟨0, 0⟩ (Int32.ofNat count) false appended longest)

structure Filled (s : System Nat) (count : Nat) : Prop where
  queue : s.queue.queue = some tenSamples
  round : ∃ appended longest, appended.length = count + 10 ∧
    s.rounds 0 = some (burstRound ⟨0, 0⟩ (Int32.ofNat count + Int32.ofNat 10) true appended longest)

theorem putAll_tenSamples {q : SampleQueue Nat} (empty : q.queue = some []) :
    (q.putAll everyCall everyCall tenSamples 0).samplesTaken = 10 ∧
      (q.putAll everyCall everyCall tenSamples 0).queue.queue = some tenSamples := by
  simp [SampleQueue.putAll, empty, SampleQueue.putAllLoop, SampleQueue.HasRoom, everyCall, tenSamples, MAX_QUEUE_SIZE]

theorem drained_fills {s : System Nat} {count : Nat} (drained : Drained s count) (below : count < 2147483647) :
    ∃ t, step (fun _ => true) s (.putAll 0 tenSamples everyCall everyCall) = some t ∧ Filled t count := by
  obtain ⟨empty, appended, longest, counted, present⟩ := drained
  obtain ⟨taken, filled⟩ := putAll_tenSamples empty
  have continues : (burstRound ⟨0, 0⟩ (Int32.ofNat count) false appended longest).Continues := by
    have counts : (Int32.ofNat count).toInt = count := Int32.toInt_ofNat_of_lt (by omega)
    have top : (2147483647 : Int32).toInt = 2147483647 := rfl
    exact ⟨Int32.lt_iff_toInt_lt.mpr (show (Int32.ofNat count).toInt < (2147483647 : Int32).toInt by omega),
      Int.le_refl 0⟩
  simp only [step, present]
  rw [if_pos ⟨rfl, rfl, continues⟩]
  refine ⟨_, rfl, filled, appended ++ tenSamples, max longest 10, ?_, ?_⟩
  · rw [List.length_append, counted]
    rfl
  · have longer : max longest tenSamples.length = max longest 10 := rfl
    simp [System.setRound, sendBurst, taken, filled, appendedBetween, empty, burstRound, longer]

theorem filled_drains {s : System Nat} {count : Nat} (filled : Filled s count) :
    ∃ t, exec (step fun _ => true) s [.other (.takeAll .zero 0 10), .clock 0 ⟨0, 0⟩] = some t ∧
      Drained t (count + 10) := by
  obtain ⟨full, appended, longest, counted, present⟩ := filled
  have emptied : (Other.takeAll .zero 0 10).run s.queue = .ok { s.queue with
      queue := some [], takeCnt := s.queue.takeCnt + 10, currentQueueSize := s.queue.currentQueueSize - 10 } := by
    simp [Other.run, SampleQueue.takeAllSection, SampleQueue.takeAllWaits, full, tenSamples, SampleQueue.takeAllLoop]
  simp only [exec, step, emptied, Option.bind_some, present, burstRound, if_true]
  refine ⟨_, rfl, rfl, appended, longest, counted, ?_⟩
  have sum : Int32.ofNat (count + 10) = Int32.ofNat count + Int32.ofNat 10 := Int32.ofNat_add count 10
  simp [System.setRound, burstRound, sum, timespecDiff]

theorem drained_passes (passes : Nat) {s : System Nat} {count : Nat} (drained : Drained s count)
    (below : count + 10 * passes < 2147483647) :
    ∃ t, exec (step fun _ => true) s (List.replicate passes drainedPass).flatten = some t ∧
      Drained t (count + 10 * passes) := by
  induction passes generalizing s count with
  | zero => exact ⟨s, rfl, drained⟩
  | succ passes ih =>
    obtain ⟨full, put, filled⟩ := drained_fills drained (by omega)
    obtain ⟨empty, taken, again⟩ := filled_drains filled
    obtain ⟨t, later, last⟩ := ih again (by omega)
    refine ⟨t, ?_, ?_⟩
    · have once : exec (step fun _ => true) s drainedPass = some empty := by
        rw [drainedPass, exec, put, Option.bind_some, taken]
      rw [List.replicate_succ, List.flatten_cons, exec_append, once, Option.bind_some, later]
    · have sum : count + 10 + 10 * passes = count + 10 * (passes + 1) := by omega
      rwa [sum] at last

theorem filled_leaves {s : System Nat} {count : Nat} (filled : Filled s count) :
    ∃ final appended longest, exec (step fun _ => true) s [.clock 0 ⟨1, 0⟩, .leave 0] = some final ∧
      appended.length = count + 10 ∧ ⟨0, .bursts, 2147483647,
        (Int32.ofNat count + Int32.ofNat 10).toInt64.toUInt64, appended, longest⟩ ∈ final.reports := by
  obtain ⟨-, appended, longest, counted, present⟩ := filled
  have late : ¬ (burstRound ⟨1, 0⟩ (Int32.ofNat count + Int32.ofNat 10) false appended longest).Continues := by
    intro continues
    have elapsed : (1 : Int) ≤ 0 := continues.2
    omega
  have read : step (fun _ => true) s (.clock 0 ⟨1, 0⟩) = some (s.setRound 0
      (some (burstRound ⟨1, 0⟩ (Int32.ofNat count + Int32.ofNat 10) false appended longest))) := by
    simp only [step, present, burstRound, if_true]
    rfl
  rw [exec, read, Option.bind_some, exec]
  simp only [step, System.setRound, Function.update_self]
  rw [if_pos ⟨rfl, late⟩]
  exact ⟨_, appended, longest, rfl, counted, List.mem_append_right _ (List.mem_singleton.mpr rfl)⟩

/-- The next burst after 2147483640 samples takes the count beyond an `int`, and the clock ends the round. -/
theorem overflowing_count_written : ∃ final, exec (step fun _ => true) System.initial overflowingRun = some final ∧
    ∃ report ∈ final.reports, report.kind = .bursts ∧ report.appended.length = 2147483650 ∧
      report.throughput = 18446744071562067970 ∧ ¬ report.Exact := by
  have entered : Drained ((System.initial : System Nat).setRound 0 (some (.enter .bursts 2147483647 ⟨0, 0⟩))) 0 :=
    ⟨rfl, [], 0, rfl, rfl⟩
  obtain ⟨s, passes, drained⟩ := drained_passes 214748364 entered (by decide)
  obtain ⟨t, put, filled⟩ := drained_fills drained (by decide)
  obtain ⟨final, appended, longest, left, counted, written⟩ := filled_leaves filled
  refine ⟨final, ?_, _, written, rfl, counted, rfl, ?_⟩
  · have enter : step (fun _ => true) (System.initial : System Nat) (.enter 0 .bursts 2147483647 ⟨0, 0⟩) =
        some ((System.initial : System Nat).setRound 0 (some (.enter .bursts 2147483647 ⟨0, 0⟩))) := rfl
    rw [overflowingRun, exec, enter, Option.bind_some, exec_append, passes, Option.bind_some, exec, put,
      Option.bind_some, left]
  · intro exact'
    have same : (18446744071562067970 : UInt64).toNat = 2147483650 := exact'.1.trans counted
    exact absurd same (by decide)

end Celix.ProducerRounds
