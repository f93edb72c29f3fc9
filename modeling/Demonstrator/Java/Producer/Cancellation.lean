import Demonstrator.Java.Producer.Rounds
import Demonstrator.Java.SampleQueue.SimpleSampleQueue
import Demonstrator.Transition.Runs

namespace SampleProduction.Burst

open Pipeline (Task)
open Transition

variable {Sample : Type}

inductive Event where
  | cancelled (burst : Nat) (put : Option Nat)
  | entered (burst put : Nat)
  deriving DecidableEq, Repr

/-- A burst producer at a `SimpleSampleQueue`. Bursts are numbered in the order of their submission, `started` is
    the one of the worker, and `offered` the sample of its `put` call, once the call has passed the first test of
    the interrupt. -/
structure System (Sample : Type) where
  producer : Producer
  queue : SimpleSampleQueue Sample
  offered : Option Sample
  submitted : Nat
  started : Nat
  log : List Event

def System.initial : System Sample := ⟨.initial, .create, none, 0, 0, []⟩

inductive Action (Sample : Type) where
  | round (statement : SampleProduction.Action)
  | enter (sample : Sample)
  | enqueue
  | interrupt
  | client (call : Fifo.Call Sample)

def System.inProgress (s : System Sample) : Option Nat :=
  match s.producer.worker, s.offered with
  | .putting i, some _ => some i
  | _, _ => none

def System.cancellation (s : System Sample) : List Event :=
  match s.producer.task with
  | .submitted => [.cancelled s.submitted none]
  | .running => [.cancelled s.submitted s.inProgress]
  | _ => []

def System.after (s : System Sample) (producer : Producer) : SampleProduction.Action → System Sample
  | .submit => { s with producer, submitted := s.submitted + 1 }
  | .start => { s with producer, started := s.submitted }
  | .cancel => { s with producer, log := s.log ++ s.cancellation }
  | _ => { s with producer }

/-- The return of `m_queue.put`, with the answer false after an `InterruptedException`. -/
def System.putReturns (s : System Sample) (answer : Bool) : Option (System Sample) :=
  (SampleProduction.step .burst s.producer (.put answer)).map fun producer => { s with producer, offered := none }

/-- The statements of the round, with the call of `put` taken apart, and the calls of the other clients. -/
def step (s : System Sample) : Action Sample → Option (System Sample)
  | .round (.put _) => none
  | .round statement =>
    (SampleProduction.step .burst s.producer statement).map fun producer => s.after producer statement
  | .enter sample =>
    match s.producer.worker, s.offered with
    | .putting _, none =>
      -- `lockInterruptibly` throws at once in an interrupted thread
      if s.producer.interrupted then s.putReturns false else some { s with offered := some sample }
    | _, _ => none
  | .enqueue =>
    match s.producer.worker, s.offered with
    | .putting i, some sample =>
      (s.queue.put sample).bind fun result => (s.putReturns result.1).map fun next =>
        { next with queue := result.2, log := s.log ++ [.entered s.started i] }
    | _, _ => none
  | .interrupt => if s.offered.isSome ∧ s.producer.interrupted = true then s.putReturns false else none
  | .client call => (s.queue.answer call).map fun result => { s with queue := result.2 }

def Event.Allows : Event → Event → Prop
  | .cancelled burst put, .entered other i => burst = other → put = some i
  | _, _ => True

instance : DecidableRel Event.Allows
  | .cancelled burst put, .entered other i => inferInstanceAs (Decidable (burst = other → put = some i))
  | .cancelled _ _, .cancelled _ _ | .entered _ _, _ => isTrue True.intro

def Stops (log : List Event) : Prop := log.Pairwise Event.Allows

instance (log : List Event) : Decidable (Stops log) := inferInstanceAs (Decidable (log.Pairwise Event.Allows))

def AtLastPut : Worker → Prop
  | .putting i => BURST_LENGTH ≤ i + 1
  | _ => True

instance : DecidablePred AtLastPut
  | .putting i => inferInstanceAs (Decidable (BURST_LENGTH ≤ i + 1))
  | .free | .testing _ | .adding _ | .sleeping | .returning => isTrue True.intro

/-- The interrupt of a cancellation ends a `put` call only if the burst has no further one. -/
def InterruptsLast (s : System Sample) : Action Sample → Prop
  | .enter _ => s.producer.interrupted = true → AtLastPut s.producer.worker
  | .interrupt => AtLastPut s.producer.worker
  | .round _ | .enqueue | .client _ => True

instance (s : System Sample) : DecidablePred (InterruptsLast s)
  | .enter _ => inferInstanceAs (Decidable (_ → _))
  | .interrupt => inferInstanceAs (Decidable (AtLastPut _))
  | .round _ | .enqueue | .client _ => isTrue True.intro

def afterPut (producer : Producer) (i : Nat) (answer : Bool) : Producer :=
  { producer with
    worker := .adding i
    interrupted := producer.interrupted && answer
    accepted := producer.accepted + if answer then 1 else 0
    answers := answer :: producer.answers }

theorem putReturns_eq {s : System Sample} {i : Nat} (putting : s.producer.worker = .putting i) (answer : Bool) :
    s.putReturns answer = some { s with producer := afterPut s.producer i answer, offered := none } := by
  simp [System.putReturns, SampleProduction.step, putting, afterPut, Kind.afterPut]

theorem putReturns_some {s t : System Sample} {answer : Bool} (h : s.putReturns answer = some t) :
    ∃ i, s.producer.worker = .putting i ∧
      t = { s with producer := afterPut s.producer i answer, offered := none } := by
  cases worker : s.producer.worker with
  | putting i =>
    rw [putReturns_eq worker] at h
    exact ⟨i, rfl, (Option.some.inj h).symm⟩
  | _ => simp [System.putReturns, SampleProduction.step, worker] at h

theorem put_accepts {q : SimpleSampleQueue Sample} {sample : Sample} {result : Bool × SimpleSampleQueue Sample}
    (h : q.put sample = some result) : q.mQueue.length < Pipeline.maxQueueSize ∧ result.1 = true := by
  unfold SimpleSampleQueue.put at h
  split at h
  · rename_i room
    cases h
    exact ⟨room, rfl⟩
  · cases h

inductive Moves (s : System Sample) : Action Sample → System Sample → Prop where
  | submit : Moves s (.round .submit)
      { s with
        producer := { s.producer with caller := .waiting, task := .submitted }
        submitted := s.submitted + 1 }
  | start (submitted : s.producer.task = .submitted) (free : s.producer.worker = .free) : Moves s (.round .start)
      { s with
        producer :=
          { s.producer with worker := .testing 0, task := .running, interrupted := false, answers := [] }
        started := s.submitted }
  | putNext (i : Nat) (testing : s.producer.worker = .testing i) (clear : s.producer.interrupted = false)
      (short : i < BURST_LENGTH) :
      Moves s (.round .test) { s with producer := { s.producer with worker := .putting i } }
  | leaveLoop (i : Nat) (testing : s.producer.worker = .testing i) :
      Moves s (.round .test) { s with producer := { s.producer with worker := .sleeping } }
  | enter (sample : Sample) (i : Nat) (putting : s.producer.worker = .putting i)
      (clear : s.producer.interrupted = false) : Moves s (.enter sample) { s with offered := some sample }
  | enqueue (i : Nat) (putting : s.producer.worker = .putting i) (called : s.offered.isSome)
      (queue : SimpleSampleQueue Sample) : Moves s .enqueue
      { s with
        producer := afterPut s.producer i true
        queue
        offered := none
        log := s.log ++ [.entered s.started i] }
  | throws (action : Action Sample) (sample : Sample) (i : Nat) (putting : s.producer.worker = .putting i)
      (thrown : s.producer.interrupted = true) (last : InterruptsLast s action ↔ BURST_LENGTH ≤ i + 1) :
      Moves s action { s with producer := afterPut s.producer i false, offered := none }
  | addAndGet (i : Nat) (adding : s.producer.worker = .adding i) : Moves s (.round .addAndGet)
      { s with producer := { s.producer with worker := .testing (i + 1), produced := s.producer.produced + 1 } }
  | sleep (sleeping : s.producer.worker = .sleeping) : Moves s (.round .sleep)
      { s with producer := { s.producer with worker := .returning, interrupted := false } }
  | finish (returning : s.producer.worker = .returning) : Moves s (.round .finish)
      { s with producer := { s.producer with
          worker := .free
          task := if s.producer.task = .running then .finished else s.producer.task } }
  | cancelSubmitted (submitted : s.producer.task = .submitted) : Moves s (.round .cancel)
      { s with
        producer := { s.producer with caller := .idle, task := .cancelled }
        log := s.log ++ [.cancelled s.submitted none] }
  | cancelRunning (running : s.producer.task = .running) : Moves s (.round .cancel)
      { s with
        producer := { s.producer with caller := .idle, task := .cancelled, interrupted := true }
        log := s.log ++ [.cancelled s.submitted s.inProgress] }
  | waits (statement : SampleProduction.Action) (caller : Pipeline.Caller) (produced drained : Nat) :
      Moves s (.round statement) { s with producer := { s.producer with caller, produced, drained } }
  | client (call : Fifo.Call Sample) (queue : SimpleSampleQueue Sample) : Moves s (.client call) { s with queue }

theorem step_round {s t : System Sample} {statement : SampleProduction.Action}
    (h : step s (.round statement) = some t) :
    ∃ producer, (∀ answer, statement ≠ .put answer) ∧
      SampleProduction.step .burst s.producer statement = some producer ∧ t = s.after producer statement := by
  cases statement with
  | put answer => cases h
  | _ =>
    simp only [step, Option.map_eq_some_iff] at h
    obtain ⟨producer, moved, rfl⟩ := h
    exact ⟨producer, by simp, moved, rfl⟩

theorem round_moves {s t : System Sample} {statement : SampleProduction.Action}
    (h : step s (.round statement) = some t) : Moves s (.round statement) t := by
  obtain ⟨producer, called, moved, rfl⟩ := step_round h
  cases statement with
  | put answer => exact absurd rfl (called answer)
  | submit =>
    simp only [SampleProduction.step] at moved
    split at moved <;> cases moved
    exact .submit
  | start =>
    simp only [SampleProduction.step] at moved
    split at moved <;> cases moved
    rename_i ready
    exact .start ready.2 ready.1
  | test =>
    simp only [SampleProduction.step] at moved
    split at moved <;> cases moved
    rename_i i testing
    split
    · rename_i again
      exact .putNext i testing again.1 again.2
    · exact .leaveLoop i testing
  | addAndGet =>
    simp only [SampleProduction.step] at moved
    split at moved <;> cases moved
    rename_i i adding
    exact .addAndGet i adding
  | sleep =>
    simp only [SampleProduction.step] at moved
    split at moved <;> cases moved
    rename_i sleeping
    exact .sleep sleeping
  | finish =>
    simp only [SampleProduction.step] at moved
    split at moved <;> cases moved
    rename_i returning
    exact .finish returning
  | getReturns =>
    simp only [SampleProduction.step] at moved
    split at moved <;> cases moved
    exact .waits .getReturns .idle _ _
  | timeout =>
    simp only [SampleProduction.step] at moved
    split at moved <;> cases moved
    exact .waits .timeout .timedOut _ _
  | cancel =>
    simp only [SampleProduction.step] at moved
    split at moved
    · split at moved <;> cases moved
      · rename_i submitted
        simp only [System.after, System.cancellation, submitted]
        exact .cancelSubmitted submitted
      · rename_i running
        simp only [System.after, System.cancellation, running]
        exact .cancelRunning running
      · rename_i notSubmitted notRunning
        have silent : s.cancellation = [] := by
          unfold System.cancellation
          split <;> first | contradiction | rfl
        simp only [System.after, silent, List.append_nil]
        exact .waits .cancel .idle _ _
    · cases moved
  | getProductionCount =>
    cases moved
    exact .waits .getProductionCount _ _ _

theorem step_moves {s t : System Sample} {action : Action Sample} (h : step s action = some t) : Moves s action t := by
  cases action with
  | round statement => exact round_moves h
  | enter sample =>
    simp only [step] at h
    split at h
    · rename_i i putting _
      split at h
      · rename_i thrown
        rw [putReturns_eq putting] at h
        cases h
        refine .throws _ sample i putting thrown ?_
        simp [InterruptsLast, AtLastPut, thrown, putting]
      · rename_i clear
        cases h
        exact .enter sample i putting (Bool.not_eq_true _ ▸ clear)
    · cases h
  | enqueue =>
    simp only [step] at h
    split at h
    · rename_i i sample putting called
      rw [Option.bind_eq_some_iff] at h
      obtain ⟨result, stored, returned⟩ := h
      obtain ⟨_, accepted⟩ := put_accepts stored
      rw [putReturns_eq putting, accepted] at returned
      cases returned
      exact .enqueue i putting (called ▸ rfl) result.2
    · cases h
  | interrupt =>
    simp only [step] at h
    split at h
    · rename_i thrown
      obtain ⟨i, putting, rfl⟩ := putReturns_some h
      refine .throws _ (s.offered.get thrown.1) i putting thrown.2 ?_
      simp [InterruptsLast, AtLastPut, putting]
    · cases h
  | client call =>
    simp only [step, Option.map_eq_some_iff] at h
    obtain ⟨result, _, rfl⟩ := h
    exact .client call result.2

def index : Worker → Option Nat
  | .testing i | .putting i | .adding i => some i
  | .free | .sleeping | .returning => none

structure Bursts (s : System Sample) : Prop where
  offered : s.offered.isSome → ∃ i, s.producer.worker = .putting i
  submitted : s.producer.task = .submitted → s.started < s.submitted
  running : s.producer.task = .running → s.started = s.submitted
  started : s.started ≤ s.submitted
  cancelled : ∀ burst put, .cancelled burst put ∈ s.log →
    burst ≤ s.submitted ∧ (burst = s.submitted → s.producer.task = .cancelled)
  interrupted : s.producer.interrupted = true → ∀ i, index s.producer.worker = some i →
    ∃ put, .cancelled s.started put ∈ s.log ∧ ∀ k, put = some k → k ≤ i

section Moves

variable {s t : System Sample}

theorem Bursts.proceed (bursts : Bursts s) (submitted : t.submitted = s.submitted) (started : t.started = s.started)
    (cancelled : ∀ burst put, .cancelled burst put ∈ t.log ↔ .cancelled burst put ∈ s.log)
    (task : t.producer.task = s.producer.task ∨ s.producer.task = .running ∧ t.producer.task = .finished)
    (offered : t.offered.isSome → ∃ i, t.producer.worker = .putting i)
    (interrupted : t.producer.interrupted = true → ∀ i, index t.producer.worker = some i →
      s.producer.interrupted = true ∧ ∃ j, index s.producer.worker = some j ∧ j ≤ i) : Bursts t where
  offered := offered
  submitted waiting := by
    rw [submitted, started]
    rcases task with same | ⟨_, ended⟩
    · exact bursts.submitted (same.symm.trans waiting)
    · cases ended.symm.trans waiting
  running here := by
    rw [submitted, started]
    rcases task with same | ⟨_, ended⟩
    · exact bursts.running (same.symm.trans here)
    · cases ended.symm.trans here
  started := by
    rw [submitted, started]
    exact bursts.started
  cancelled burst put member := by
    obtain ⟨known, last⟩ := bursts.cancelled burst put ((cancelled burst put).mp member)
    rw [submitted]
    refine ⟨known, fun same => ?_⟩
    rcases task with kept | ⟨running, _⟩
    · exact kept.trans (last same)
    · cases running.symm.trans (last same)
  interrupted thrown i here := by
    obtain ⟨before, j, earlier, least⟩ := interrupted thrown i here
    obtain ⟨put, member, first⟩ := bursts.interrupted before j earlier
    rw [started]
    exact ⟨put, (cancelled _ _).mpr member, fun k same => (first k same).trans least⟩

theorem Bursts.submit (bursts : Bursts s) : Bursts
    { s with
      producer := { s.producer with caller := .waiting, task := .submitted }
      submitted := s.submitted + 1 } where
  offered := bursts.offered
  submitted _ := Nat.lt_succ_of_le bursts.started
  running here := by cases here
  started := Nat.le_succ_of_le bursts.started
  cancelled burst put member := by
    obtain ⟨known, _⟩ := bursts.cancelled burst put member
    refine ⟨Nat.le_succ_of_le known, fun same => ?_⟩
    dsimp only at same
    omega
  interrupted := bursts.interrupted

theorem Bursts.start (bursts : Bursts s) (waiting : s.producer.task = .submitted) (free : s.producer.worker = .free) :
    Bursts
      { s with
        producer :=
          { s.producer with worker := .testing 0, task := .running, interrupted := false, answers := [] }
        started := s.submitted } where
  offered called := by
    obtain ⟨i, putting⟩ := bursts.offered called
    cases free.symm.trans putting
  submitted here := by cases here
  running _ := rfl
  started := Nat.le_refl _
  cancelled burst put member := by
    obtain ⟨known, last⟩ := bursts.cancelled burst put member
    refine ⟨known, fun same => ?_⟩
    cases waiting.symm.trans (last same)
  interrupted thrown := by cases thrown

theorem Bursts.cancel (bursts : Bursts s) (interrupted : Bool) (put : Option Nat)
    (recorded : interrupted = true → s.producer.interrupted = true ∨ s.started = s.submitted)
    (inside : ∀ k, put = some k → index s.producer.worker = some k) : Bursts
      { s with
        producer := { s.producer with caller := .idle, task := .cancelled, interrupted }
        log := s.log ++ [.cancelled s.submitted put] } where
  offered := bursts.offered
  submitted here := by cases here
  running here := by cases here
  started := bursts.started
  cancelled burst other member := by
    rcases List.mem_append.mp member with earlier | last
    · exact ⟨(bursts.cancelled burst other earlier).1, fun _ => rfl⟩
    · cases List.mem_singleton.mp last
      exact ⟨Nat.le_refl _, fun _ => rfl⟩
  interrupted thrown i here := by
    rcases recorded thrown with before | same
    · obtain ⟨earlier, member, first⟩ := bursts.interrupted before i here
      exact ⟨earlier, List.mem_append_left _ member, first⟩
    · refine ⟨put, ?_, fun k inPut => ?_⟩
      · rw [same]
        exact List.mem_append_right _ (List.mem_singleton_self _)
      · have equal : some k = some i := (inside k inPut).symm.trans here
        exact Nat.le_of_eq (Option.some.inj equal)

theorem Bursts.not_offered (bursts : Bursts s) (outside : ∀ i, s.producer.worker ≠ .putting i)
    (called : s.offered.isSome) : False := by
  obtain ⟨i, putting⟩ := bursts.offered called
  exact outside i putting

theorem inProgress_index {k : Nat} (inside : s.inProgress = some k) : index s.producer.worker = some k := by
  unfold System.inProgress at inside
  split at inside
  · rename_i i _ putting _
    rw [putting]
    exact inside
  · cases inside

end Moves

theorem bursts_step (s : System Sample) (action : Action Sample) (t : System Sample) (bursts : Bursts s)
    (h : step s action = some t) : Bursts t := by
  cases step_moves h with
  | submit => exact bursts.submit
  | start waiting free => exact bursts.start waiting free
  | cancelSubmitted waiting =>
    exact bursts.cancel s.producer.interrupted none .inl fun k wrong => by cases wrong
  | cancelRunning here =>
    exact bursts.cancel true s.inProgress (fun _ => .inr (bursts.running here)) fun _ => inProgress_index
  | putNext i testing clear short =>
    refine bursts.proceed rfl rfl (fun _ _ => Iff.rfl) (.inl rfl) (fun _ => ⟨i, rfl⟩) fun thrown j here => ?_
    exact ⟨thrown, i, by rw [testing]; rfl, Nat.le_of_eq (Option.some.inj here)⟩
  | leaveLoop i testing =>
    refine bursts.proceed rfl rfl (fun _ _ => Iff.rfl) (.inl rfl) (fun called => ?_) fun _ j here => by cases here
    exact (bursts.not_offered (by simp [testing]) called).elim
  | enter sample i putting clear =>
    exact bursts.proceed rfl rfl (fun _ _ => Iff.rfl) (.inl rfl) (fun _ => ⟨i, putting⟩) fun thrown j here =>
      ⟨thrown, j, here, Nat.le_refl j⟩
  | enqueue i putting called queue =>
    refine bursts.proceed rfl rfl (by simp) (.inl rfl) (fun wrong => by cases wrong) fun thrown j here => ?_
    refine ⟨?_, i, by rw [putting]; rfl, Nat.le_of_eq (Option.some.inj here)⟩
    exact (Bool.and_true _).symm.trans thrown
  | throws _ sample i putting thrown last =>
    refine bursts.proceed rfl rfl (fun _ _ => Iff.rfl) (.inl rfl) (fun wrong => by cases wrong) fun again => ?_
    cases (Bool.and_false _).symm.trans again
  | addAndGet i adding =>
    refine bursts.proceed rfl rfl (fun _ _ => Iff.rfl) (.inl rfl) (fun called => ?_) fun thrown j here => ?_
    · exact (bursts.not_offered (by simp [adding]) called).elim
    · have next : i + 1 = j := Option.some.inj here
      exact ⟨thrown, i, by rw [adding]; rfl, by omega⟩
  | sleep sleeping =>
    refine bursts.proceed rfl rfl (fun _ _ => Iff.rfl) (.inl rfl) (fun called => ?_) fun wrong => by cases wrong
    exact (bursts.not_offered (by simp [sleeping]) called).elim
  | finish returning =>
    refine bursts.proceed rfl rfl (fun _ _ => Iff.rfl) ?_ (fun called => ?_) fun _ j here => by cases here
    · by_cases running : s.producer.task = .running
      · exact .inr ⟨running, if_pos running⟩
      · exact .inl (if_neg running)
    · exact (bursts.not_offered (by simp [returning]) called).elim
  | waits statement caller produced drained =>
    exact bursts.proceed rfl rfl (fun _ _ => Iff.rfl) (.inl rfl) bursts.offered fun thrown j here =>
      ⟨thrown, j, here, Nat.le_refl j⟩
  | client call queue =>
    exact bursts.proceed rfl rfl (fun _ _ => Iff.rfl) (.inl rfl) bursts.offered fun thrown j here =>
      ⟨thrown, j, here, Nat.le_refl j⟩

def Halting (s : System Sample) (put : Option Nat) : Prop :=
  match s.producer.worker with
  | .putting i => s.producer.interrupted = true ∧ (s.offered = none ∨ put = some i)
  | .adding i => s.producer.interrupted = true ∨ BURST_LENGTH ≤ i + 1
  | .testing i => s.producer.interrupted = true ∨ BURST_LENGTH ≤ i
  | .free | .sleeping | .returning => True

structure Halts (s : System Sample) : Prop where
  bursts : Bursts s
  stops : Stops s.log
  halting : ∀ put, .cancelled s.started put ∈ s.log → Halting s put

theorem halting_inProgress (s t : System Sample) (worker : t.producer.worker = s.producer.worker)
    (offered : t.offered = s.offered) (interrupted : t.producer.interrupted = true) : Halting t s.inProgress := by
  unfold Halting System.inProgress
  rw [worker, offered, interrupted]
  cases s.producer.worker with
  | putting i =>
    cases s.offered with
    | none => exact ⟨rfl, .inl rfl⟩
    | some sample => exact ⟨rfl, .inr rfl⟩
  | testing i => exact .inl rfl
  | adding i => exact .inl rfl
  | _ => exact True.intro

theorem Stops.snoc {log : List Event} {event : Event} (stops : Stops log)
    (allowed : ∀ earlier ∈ log, earlier.Allows event) : Stops (log ++ [event]) := by
  refine List.pairwise_append.mpr ⟨stops, List.pairwise_singleton _ _, ?_⟩
  intro earlier member later last
  cases List.mem_singleton.mp last
  exact allowed earlier member

theorem Event.allows_cancelled (event : Event) (burst : Nat) (put : Option Nat) :
    event.Allows (.cancelled burst put) := by
  cases event <;> exact True.intro

theorem halts_step (s : System Sample) (action : Action Sample) (t : System Sample) (halts : Halts s)
    (guarded : InterruptsLast s action) (h : step s action = some t) : Halts t := by
  have bursts := bursts_step s action t halts.bursts h
  obtain ⟨⟨offered, submitted, running, started, cancelled, interrupted⟩, stops, halting⟩ := halts
  cases step_moves h with
  | submit => exact ⟨bursts, stops, halting⟩
  | start waiting free =>
    refine ⟨bursts, stops, fun put member => ?_⟩
    have again := (cancelled _ _ member).2 rfl
    cases waiting.symm.trans again
  | putNext i testing clear short =>
    refine ⟨bursts, stops, fun put member => ?_⟩
    have here := halting put member
    grind [Halting]
  | leaveLoop i testing => exact ⟨bursts, stops, fun put member => True.intro⟩
  | enter sample i putting clear =>
    refine ⟨bursts, stops, fun put member => ?_⟩
    have here := halting put member
    grind [Halting]
  | enqueue i putting called queue =>
    refine ⟨bursts, stops.snoc ?_, fun put member => ?_⟩
    · rintro (⟨burst, put⟩ | _) member
      · rintro rfl
        have here := halting put member
        grind [Halting]
      · exact True.intro
    · have here := halting put (by simpa using member)
      grind [Halting, afterPut]
  | throws _ sample i putting thrown last =>
    exact ⟨bursts, stops, fun put member => .inr (last.mp guarded)⟩
  | addAndGet i adding =>
    refine ⟨bursts, stops, fun put member => ?_⟩
    have here := halting put member
    grind [Halting]
  | sleep sleeping => exact ⟨bursts, stops, fun put member => True.intro⟩
  | finish returning => exact ⟨bursts, stops, fun put member => True.intro⟩
  | cancelSubmitted waiting =>
    refine ⟨bursts, stops.snoc fun earlier _ => earlier.allows_cancelled _ _, fun put member => ?_⟩
    have here := halting put
    grind [Halting]
  | cancelRunning here =>
    refine ⟨bursts, stops.snoc fun earlier _ => earlier.allows_cancelled _ _, fun put member => ?_⟩
    rcases List.mem_append.mp member with earlier | last
    · have again := (cancelled _ _ earlier).2 (running here)
      cases here.symm.trans again
    · have same : put = s.inProgress := (Event.cancelled.inj (List.mem_singleton.mp last)).2
      rw [same]
      exact halting_inProgress s _ rfl rfl rfl
  | waits statement caller produced drained => exact ⟨bursts, stops, halting⟩
  | client call queue => exact ⟨bursts, stops, halting⟩

theorem bursts_initial : Bursts (System.initial : System Sample) := by
  constructor <;> simp [System.initial, Producer.initial]

theorem halts_initial : Halts (System.initial : System Sample) :=
  ⟨bursts_initial, List.Pairwise.nil, fun _ member => absurd member List.not_mem_nil⟩

def nextPut (s : System Sample) (sample : Sample) : List (Action Sample) :=
  [.round .addAndGet, .round .test, .client (.takeBatch 0 s.queue.mQueue.length), .enter sample, .enqueue]

theorem nextPut_log {s : System Sample} {i : Nat} (sample : Sample) (adding : s.producer.worker = .adding i)
    (clear : s.producer.interrupted = false) (more : i + 1 < BURST_LENGTH) (returned : s.offered = none) :
    (exec step s (nextPut s sample)).map System.log = some (s.log ++ [.entered s.started (i + 1)]) := by
  have positive : ¬ (s.queue.mQueue.length : Int) < 0 := by omega
  simp [nextPut, exec, step, SampleProduction.step, System.after, adding, clear, more, returned,
    SimpleSampleQueue.answer, SimpleSampleQueue.takeMinMax, SimpleSampleQueue.put, System.putReturns,
    Pipeline.maxQueueSize, positive]

theorem not_stops {log : List Event} {burst i : Nat} {put : Option Nat} (member : .cancelled burst put ∈ log)
    (early : ∀ k, put = some k → k ≤ i) : ¬ Stops (log ++ [.entered burst (i + 1)]) := by
  intro stops
  have same : put = some (i + 1) := (List.pairwise_append.mp stops).2.2 _ member _ (List.mem_singleton_self _) rfl
  have short := early (i + 1) same
  omega

theorem cancelled_burst_stops {actions : List (Action Sample)} {s : System Sample}
    (run : exec step .initial actions = some s) :
    (Meets step InterruptsLast .initial actions → Stops s.log) ∧
      ∀ action t, step s action = some t → ¬ InterruptsLast s action →
        ∃ later final, exec step t later = some final ∧ ¬ Stops final.log := by
  constructor
  · intro meets
    exact (meets_invariant halts_step halts_initial meets run).stops
  · intro action t taken unguarded
    have bursts := exec_invariant bursts_step bursts_initial run
    cases step_moves taken with
    | throws _ sample i putting thrown last =>
      obtain ⟨put, member, early⟩ := bursts.interrupted thrown i (by rw [putting]; rfl)
      have more : i + 1 < BURST_LENGTH := Nat.lt_of_not_le fun full => unguarded (last.mpr full)
      have entered := nextPut_log (s := { s with producer := afterPut s.producer i false, offered := none })
        sample rfl (Bool.and_false _) more rfl
      obtain ⟨final, later, log⟩ := Option.map_eq_some_iff.mp entered
      refine ⟨_, final, later, ?_⟩
      rw [log]
      exact not_stops member early
    | enter sample i putting clear => exact absurd (fun thrown => absurd (clear.symm.trans thrown) (by decide)) unguarded
    | _ => exact absurd True.intro unguarded

def returningPut : List (Action Nat) :=
  [.round .submit, .round .start, .round .test, .enter 0, .round .timeout, .round .cancel, .enqueue,
    .round .addAndGet, .round .test]

theorem cancelled_burst_stops_after_put :
    ∃ s, exec step .initial returningPut = some s ∧ s.log = [.cancelled 1 (some 0), .entered 1 0] ∧
      Meets step InterruptsLast .initial returningPut ∧ Stops s.log := by
  have meets : Meets step InterruptsLast (.initial : System Nat) returningPut := by decide
  exact ⟨_, rfl, rfl, meets, (cancelled_burst_stops rfl).1 meets⟩

def beforeCall : List (Action Nat) :=
  [.round .submit, .round .start, .round .test, .round .timeout, .round .cancel, .enter 0, .round .addAndGet,
    .round .test, .enter 1, .enqueue]

def whileWaiting : List (Action Nat) :=
  [.client (.putAll (List.replicate Pipeline.maxQueueSize 0)), .round .submit, .round .start, .round .test,
    .enter 0, .round .timeout, .round .cancel, .interrupt, .round .addAndGet, .round .test, .enter 1,
    .client (.takeBatch 0 1), .enqueue]

theorem cancelled_burst_goes_on :
    ((exec step .initial beforeCall).map System.log = some [.cancelled 1 none, .entered 1 1] ∧
      ¬ Stops [.cancelled 1 none, .entered 1 1]) ∧
    (exec step .initial whileWaiting).map System.log = some [.cancelled 1 (some 0), .entered 1 1] ∧
      ¬ Stops [.cancelled 1 (some 0), .entered 1 1] := by
  have filled : SimpleSampleQueue.putAll .create (List.replicate Pipeline.maxQueueSize 0) =
      some (Pipeline.maxQueueSize, ⟨List.replicate Pipeline.maxQueueSize 0⟩) := by
    rw [SimpleSampleQueue.putAll, SimpleSampleQueue.putAllLoop_room]
    · simp [SimpleSampleQueue.create]
    · simp [SimpleSampleQueue.create]
  have opened : step .initial (.client (.putAll (List.replicate Pipeline.maxQueueSize 0))) =
      some { System.initial with queue := ⟨List.replicate Pipeline.maxQueueSize 0⟩ } := by
    simp only [step, SimpleSampleQueue.answer, System.initial, filled]
    rfl
  have full : (List.replicate Pipeline.maxQueueSize 0).length = Pipeline.maxQueueSize := List.length_replicate
  refine ⟨⟨by decide, by decide⟩, ?_, by decide⟩
  rw [whileWaiting, exec, opened, Option.bind_some]
  generalize List.replicate Pipeline.maxQueueSize 0 = items at full
  -- until the second call waits, no statement reads the queue
  have waiting : exec step { System.initial with queue := ⟨items⟩ }
      [.round .submit, .round .start, .round .test, .enter 0, .round .timeout, .round .cancel, .interrupt,
        .round .addAndGet, .round .test, .enter 1, .client (.takeBatch 0 1), .enqueue] =
      exec step ⟨⟨.idle, .cancelled, .putting 1, false, 1, 0, 0, [false]⟩, ⟨items⟩, some 1, 1, 1,
        [.cancelled 1 (some 0)]⟩ [.client (.takeBatch 0 1), .enqueue] := rfl
  have room : Pipeline.maxQueueSize - 1 < Pipeline.maxQueueSize := by decide
  rw [waiting]
  simp [exec, step, SimpleSampleQueue.answer, SimpleSampleQueue.takeMinMax, SimpleSampleQueue.put,
    System.putReturns, SampleProduction.step, full, room]

end SampleProduction.Burst
