import Demonstrator.Celix.Producer.BurstLength
import Demonstrator.Celix.Producer.Control
import Mathlib.Algebra.Order.Field.Basic

namespace Celix.ProducerControl

open Arithmetic ProducerRounds Transition

variable {Sample : Type} {s t : Control Sample}

def addAverage (total : ℚ) (data : ThreadData) : ℚ :=
  total + ((data.single_throughput + data.burst_throughput).toNat : ℚ) / 2

/-- `producer_getUtilizationStatsValue`, over the threads in the order of the hash map and with exact numbers. -/
def getUtilizationStatsValue (threads : List ThreadData) : ℚ :=
  let total_average := threads.foldl addAverage 0
  if 0 < threads.length then total_average / threads.length else total_average

def Drawn (lib : Stdlib) : Action Sample → Prop
  | .round (.putAll _ burst _ _) => ∃ rand ≤ lib.RAND_MAX, ∃ burst_len,
      randRange lib MIN_BURST_LEN MAX_BURST_LEN rand = some burst_len ∧ burst.length = burst_len.toNat
  | _ => True

theorem burstLen_le (lib : Stdlib) {rand : Nat} {burst_len : UInt32} (drawn : rand ≤ lib.RAND_MAX)
    (given : randRange lib MIN_BURST_LEN MAX_BURST_LEN rand = some burst_len) : burst_len.toNat ≤ 51 := by
  have scaled : 41 * rand / lib.RAND_MAX ≤ 41 :=
    Nat.div_le_of_le_mul (by rw [Nat.mul_comm]; exact Nat.mul_le_mul_right 41 drawn)
  rw [randRange_eq lib (by decide) (by decide)] at given
  change (if 41 * rand / lib.RAND_MAX + 10 < 2 ^ 32 then some (UInt32.ofNat (41 * rand / lib.RAND_MAX + 10)) else none) =
    some burst_len at given
  split at given <;> cases given
  rename_i defined
  rw [UInt32.toNat_ofNat_of_lt' defined]
  omega

def Written (reports : List (Report Sample)) (service : Nat) (kind : Kind) (throughput : UInt64) : Prop :=
  throughput = 0 ∨ ∃ report ∈ reports, report.thread = service ∧ report.kind = kind ∧ report.throughput = throughput

def Written.Both (reports : List (Report Sample)) (service : Nat) (data : ThreadData) : Prop :=
  Written reports service .samples data.single_throughput ∧ Written reports service .bursts data.burst_throughput

structure Moderate (s : Control Sample) : Prop where
  within : Within s
  accounted : Accounted s.system
  rounds : ∀ thread round, s.system.rounds thread = some round →
    round.samplesPerSec.toInt ≤ 500 ∧ round.longest ≤ 51
  reports : ∀ report ∈ s.system.reports, report.samplesPerSec.toInt ≤ 500 ∧ report.longest ≤ 51
  threads : ∀ service data, s.threads service = some data → Written.Both s.system.reports service data

theorem Written.mono {reports more : List (Report Sample)} {service : Nat} {kind : Kind} {throughput : UInt64}
    (written : Written reports service kind throughput) : Written (reports ++ more) service kind throughput := by
  rcases written with zero | ⟨report, member, same⟩
  · exact .inl zero
  · exact .inr ⟨report, List.mem_append_left more member, same⟩

theorem throughput_le {report : Report Sample} (exact' : report.Exact) (rate : report.samplesPerSec.toInt ≤ 500)
    (longest : report.longest ≤ 51) : report.throughput.toNat ≤ 550 := by
  have bounded := exact'.2
  unfold Bounded at bounded
  split at bounded
  · omega
  · split at bounded <;> omega

theorem Moderate.throughput (moderate : Moderate s) {service : Nat} {kind : Kind} {throughput : UInt64}
    (written : Written s.system.reports service kind throughput) : throughput.toNat ≤ 550 := by
  rcases written with rfl | ⟨report, member, _, _, rfl⟩
  · exact Nat.zero_le _
  · have limits := moderate.reports report member
    exact throughput_le (moderate.accounted.reports report member) limits.1 limits.2

theorem enters_throughputs {data next : ThreadData} {kind : Kind} {samplesPerSec : Int32}
    (entered : data.enters kind samplesPerSec = some next) :
    next.single_throughput = data.single_throughput ∧ next.burst_throughput = data.burst_throughput := by
  unfold ThreadData.enters at entered
  split at entered
  · split at entered <;> cases entered
    exact ⟨rfl, rfl⟩
  · split at entered <;> cases entered
    exact ⟨rfl, rfl⟩
  · cases entered

theorem both_leaves {data next : ThreadData} {round : Round Sample} {reports : List (Report Sample)} {thread : Nat}
    (both : Written.Both reports thread data) (left : data.leaves round = some next) :
    Written.Both (reports ++ [{
      thread
      kind := round.kind
      samplesPerSec := round.samplesPerSec
      throughput := round.sampleCnt.toInt64.toUInt64
      appended := round.appended
      longest := round.longest }]) thread next := by
  unfold ThreadData.leaves at left
  split at left
  · rename_i kind
    cases left
    exact ⟨both.1.mono, .inr ⟨_, List.mem_append_right _ (List.mem_singleton_self _), rfl, kind, rfl⟩⟩
  · rename_i kind
    cases left
    exact ⟨.inr ⟨_, List.mem_append_right _ (List.mem_singleton_self _), rfl, kind, rfl⟩, both.2.mono⟩
  · cases left

theorem both_update {threads : Nat → Option ThreadData} {reports : List (Report Sample)}
    (both : ∀ service data, threads service = some data → Written.Both reports service data)
    {changed : Nat} {next : ThreadData} (written : Written.Both reports changed next) :
    ∀ service data, Function.update threads changed (some next) service = some data →
      Written.Both reports service data := by
  intro service data found
  rcases update_some_iff.mp found with ⟨rfl, rfl⟩ | ⟨_, before⟩
  · exact written
  · exact both service data before

theorem Moderate.follow {action : ProducerRounds.Action Sample} {threads : Nat → Option ThreadData}
    {system : System Sample} (moderate : Moderate s) (followed : s.follow action = some threads)
    (moved : ProducerRounds.step (fun _ => true) s.system action = some system) :
    ∀ service data, threads service = some data → Written.Both system.reports service data := by
  cases stepped_of_step moved with
  | entered =>
    simp only [Control.follow, Option.map_eq_some_iff, Option.bind_eq_some_iff] at followed
    obtain ⟨next, ⟨data, found, entered⟩, rfl⟩ := followed
    obtain ⟨singles, bursts⟩ := enters_throughputs entered
    have before := moderate.threads _ data found
    refine both_update moderate.threads ⟨?_, ?_⟩
    · rw [singles]
      exact before.1
    · rw [bursts]
      exact before.2
  | left present =>
    simp only [Control.follow, Option.map_eq_some_iff, Option.bind_eq_some_iff] at followed
    obtain ⟨next, ⟨data, found, round, same, left⟩, rfl⟩ := followed
    cases present.symm.trans same
    refine both_update (fun service data found => ?_) (both_leaves (moderate.threads _ data found) left)
    have before := moderate.threads service data found
    exact ⟨before.1.mono, before.2.mono⟩
  | sentSample | sentBurst | read | elsewhere =>
    cases followed
    exact moderate.threads

theorem Moderate.fits {lib : Stdlib} {action : ProducerRounds.Action Sample} (moderate : Moderate s)
    (drawn : Drawn lib (.round action)) : CountFits (fun _ => true) s.system action := by
  cases action with
  | putAll thread burst calloc add =>
    intro round present _
    obtain ⟨rand, upTo, burst_len, given, length⟩ := drawn
    have most := (putAll_appended calloc add burst s.system.queue).2
    have short := burstLen_le lib upTo given
    have counted := moderate.accounted.rounds thread round present
    have limits := moderate.rounds thread round present
    have bounded := counted.bounded
    have count := counted.counted
    unfold Bounded at bounded
    split at bounded
    · omega
    · split at bounded <;> omega
  | _ => exact True.intro

theorem limits_step {lib : Stdlib} {action : ProducerRounds.Action Sample} {system : System Sample}
    (moderate : Moderate s) (drawn : Drawn lib (.round action))
    (entered : ∀ thread kind samplesPerSec tsStart, action = .enter thread kind samplesPerSec tsStart →
      samplesPerSec.toInt ≤ 500)
    (moved : ProducerRounds.step (fun _ => true) s.system action = some system) :
    (∀ thread round, system.rounds thread = some round → round.samplesPerSec.toInt ≤ 500 ∧ round.longest ≤ 51) ∧
      ∀ report ∈ system.reports, report.samplesPerSec.toInt ≤ 500 ∧ report.longest ≤ 51 := by
  cases stepped_of_step moved with
  | entered =>
    refine ⟨fun thread round present => ?_, moderate.reports⟩
    rcases update_some_iff.mp present with ⟨_, rfl⟩ | ⟨_, before⟩
    · exact ⟨entered _ _ _ _ rfl, Nat.zero_le _⟩
    · exact moderate.rounds thread round before
  | sentSample found single continues =>
    refine ⟨fun thread round present => ?_, moderate.reports⟩
    rcases update_some_iff.mp present with ⟨_, rfl⟩ | ⟨_, before⟩
    · have limits := moderate.rounds _ _ found
      exact ⟨limits.1, limits.2⟩
    · exact moderate.rounds thread round before
  | sentBurst found bursts continues =>
    refine ⟨fun thread round present => ?_, moderate.reports⟩
    rcases update_some_iff.mp present with ⟨_, rfl⟩ | ⟨_, before⟩
    · obtain ⟨rand, upTo, burst_len, given, length⟩ := drawn
      have short := burstLen_le lib upTo given
      have limits := moderate.rounds _ _ found
      exact ⟨limits.1, max_le limits.2 (length ▸ short)⟩
    · exact moderate.rounds thread round before
  | read found called =>
    refine ⟨fun thread round present => ?_, moderate.reports⟩
    rcases update_some_iff.mp present with ⟨_, rfl⟩ | ⟨_, before⟩
    · have limits := moderate.rounds _ _ found
      exact ⟨limits.1, limits.2⟩
    · exact moderate.rounds thread round before
  | left found =>
    refine ⟨fun thread round present => moderate.rounds thread round (update_none_iff.mp present).2, ?_⟩
    intro report member
    rcases List.mem_append.mp member with before | last
    · exact moderate.reports report before
    · rw [List.mem_singleton.mp last]
      exact moderate.rounds _ _ found
  | elsewhere => exact ⟨moderate.rounds, moderate.reports⟩

theorem moderate_step (lib : Stdlib) (s : Control Sample) (action : Action Sample) (t : Control Sample)
    (moderate : Moderate s) (fair : Asks action ∧ Drawn lib action) (h : step s action = some t) : Moderate t := by
  have within : Within t := within_step s action t moderate.within fair.1 h
  cases action with
  | queueServiceAdded service =>
    simp only [step] at h
    split at h
    · cases h
    · split at h <;> cases h
      exact ⟨within, moderate.accounted, moderate.rounds, moderate.reports,
        both_update moderate.threads ⟨.inl rfl, .inl rfl⟩⟩
  | queueServiceRemoved service =>
    simp only [step] at h
    split at h
    · cases h
    · split at h <;> cases h
      refine ⟨within, moderate.accounted, moderate.rounds, moderate.reports, fun other data found => ?_⟩
      exact moderate.threads other data (update_none_iff.mp found).2
  | setSampleRate rate order =>
    simp only [step] at h
    split at h <;> cases h
    exact ⟨within, moderate.accounted, moderate.rounds, moderate.reports, moderate.threads⟩
  | setNext call =>
    simp only [step] at h
    split at h
    · cases h
    · cases h
      exact ⟨within, moderate.accounted, moderate.rounds, moderate.reports, moderate.threads⟩
    · rename_i rate service rest found
      cases h
      refine ⟨within, moderate.accounted, moderate.rounds, moderate.reports, fun other data present => ?_⟩
      by_cases same : other = service
      · subst same
        simp only [Function.update_self, Option.map_eq_some_iff] at present
        obtain ⟨before, here, rfl⟩ := present
        exact moderate.threads other before here
      · simp only [Function.update_of_ne same] at present
        exact moderate.threads other data present
  | readRate service =>
    simp only [step] at h
    split at h
    · cases h
    · rename_i data found
      split at h <;> cases h
      exact ⟨within, moderate.accounted, moderate.rounds, moderate.reports,
        both_update moderate.threads (moderate.threads service data found)⟩
  | skip service =>
    simp only [step] at h
    split at h
    · cases h
    · rename_i data found
      split at h
      · split at h <;> cases h
        exact ⟨within, moderate.accounted, moderate.rounds, moderate.reports,
          both_update moderate.threads (moderate.threads service data found)⟩
      · cases h
  | round action =>
    simp only [step, Option.bind_eq_some_iff, Option.map_eq_some_iff] at h
    obtain ⟨threads, followed, system, moved, rfl⟩ := h
    have entered := (moderate.within.follow followed).2
    obtain ⟨rounds, reports⟩ := limits_step moderate fair.2 entered moved
    exact ⟨within, accounted_step _ _ _ _ moderate.accounted (moderate.fits fair.2) moved, rounds, reports,
      moderate.follow followed moved⟩

theorem moderate_initial : Moderate (Control.initial : Control Sample) where
  within := within_initial
  accounted := accounted_initial
  rounds thread round present := by cases present
  reports report listed := by cases listed
  threads service data found := by cases found

theorem addAverage_right_comm (total : ℚ) (data other : ThreadData) :
    addAverage (addAverage total data) other = addAverage (addAverage total other) data :=
  add_right_comm _ _ _

theorem getUtilizationStatsValue_perm {threads others : List ThreadData} (same : threads.Perm others) :
    getUtilizationStatsValue threads = getUtilizationStatsValue others := by
  have total := same.foldl_eq' (fun data _ other _ total => addAverage_right_comm total data other) (0 : ℚ)
  simp only [getUtilizationStatsValue, total, same.length_eq]

theorem foldl_addAverage_range {threads : List ThreadData}
    (within : ∀ data ∈ threads, data.single_throughput.toNat ≤ 500 ∧ data.burst_throughput.toNat ≤ 550)
    (total : ℚ) :
    total ≤ threads.foldl addAverage total ∧ threads.foldl addAverage total ≤ total + threads.length * 525 := by
  induction threads generalizing total with
  | nil => simp
  | cons data rest ih =>
    rw [List.forall_mem_cons] at within
    obtain ⟨⟨single, bursts⟩, later⟩ := within
    have sum : (data.single_throughput + data.burst_throughput).toNat ≤ 1050 := by
      rw [UInt64.toNat_add]
      omega
    have most : ((data.single_throughput + data.burst_throughput).toNat : ℚ) ≤ 1050 := by exact_mod_cast sum
    have least : (0 : ℚ) ≤ ((data.single_throughput + data.burst_throughput).toNat : ℚ) := Nat.cast_nonneg _
    obtain ⟨low, high⟩ := ih later (addAverage total data)
    unfold addAverage at low high
    rw [List.foldl_cons, List.length_cons]
    push_cast
    constructor
    · exact le_trans (by linarith) low
    · exact le_trans high (by linarith)

theorem getUtilizationStatsValue_range {threads : List ThreadData}
    (within : ∀ data ∈ threads, data.single_throughput.toNat ≤ 500 ∧ data.burst_throughput.toNat ≤ 550) :
    0 ≤ getUtilizationStatsValue threads ∧ getUtilizationStatsValue threads ≤ 525 := by
  obtain ⟨low, high⟩ := foldl_addAverage_range within 0
  rw [zero_add] at high
  unfold getUtilizationStatsValue
  split
  · rename_i some
    have positive : (0 : ℚ) < threads.length := by exact_mod_cast some
    exact ⟨div_nonneg low positive.le, (div_le_iff₀' positive).mpr high⟩
  · rename_i none
    have empty : threads = [] := List.length_eq_zero_iff.mp (by omega)
    subst empty
    simp

def shortestBurst : List (Action Nat) :=
  [.queueServiceAdded 0, .readRate 0, .round (.enter 0 .bursts 500 ⟨0, 0⟩),
    .round (.putAll 0 (List.range 10) everyCall everyCall), .round (.clock 0 ⟨1, 0⟩), .round (.leave 0),
    .round (.enter 0 .samples 500 ⟨1, 0⟩), .round (.put 0 10 true true), .round (.clock 0 ⟨2, 0⟩), .round (.leave 0)]

end Celix.ProducerControl
