import Demonstrator.Java.Producer.Rounds
import Demonstrator.Transition.Runs

namespace SampleProduction

open Pipeline (Caller Task)
open Transition

def CountsAccepted (s : Producer) : Prop := s.Quiet → s.drained + s.produced = s.accepted

/-- The caller counts a periodic round just if it gets its return: then the queue has to have accepted the
    sample, and otherwise never. A burst counts every call, so the queue has to accept every sample. -/
def CountedWhenAccepted (kind : Kind) (s : Producer) (action : Action) : Prop :=
  match kind, action with
  | .periodic, .put true => s.task = .running ∧ s.caller = .waiting
  | .periodic, .timeout => s.task = .running → true ∉ s.answers
  | .periodic, .getReturns => true ∈ s.answers
  | .burst, .put answer => answer = true
  | _, _ => True

instance (kind : Kind) (s : Producer) : (action : Action) → Decidable (CountedWhenAccepted kind s action) :=
  match kind with
  | .periodic => fun
    | .put true => inferInstanceAs (Decidable (_ ∧ _))
    | .timeout => inferInstanceAs (Decidable (_ → _))
    | .getReturns => inferInstanceAs (Decidable (_ ∈ _))
    | .put false | .submit | .start | .test | .addAndGet | .sleep | .finish | .cancel | .getProductionCount =>
      isTrue True.intro
  | .burst => fun
    | .put answer => inferInstanceAs (Decidable (answer = true))
    | .submit | .start | .test | .addAndGet | .sleep | .finish | .getReturns | .timeout | .cancel
    | .getProductionCount => isTrue True.intro

def Producer.awaited (s : Producer) : Nat :=
  if true ∈ s.answers ∧ (s.task = .running ∨ s.task = .finished ∧ s.caller = .waiting) then 1 else 0

structure PeriodicBalanced (s : Producer) : Prop where
  worker : s.worker = .free ∨ s.worker = .putting 0 ∨ s.worker = .returning
  putting : s.worker = .putting 0 → s.answers = []
  free : s.worker = .free → s.task ≠ .running
  idle : s.caller = .idle → s.task ≠ .submitted ∧ s.task ≠ .running
  accepted : s.task = .running → true ∈ s.answers → s.caller = .waiting
  balance : s.accepted = s.drained + s.produced + s.awaited

def Producer.adding (s : Producer) : Nat :=
  match s.worker with
  | .adding _ => 1
  | _ => 0

def BurstBalanced (s : Producer) : Prop := s.accepted = s.drained + s.produced + s.adding

section Periodic

variable {s : Producer}

theorem PeriodicBalanced.submit (balanced : PeriodicBalanced s) (idle : s.caller = .idle) :
    PeriodicBalanced { s with caller := .waiting, task := .submitted } := by
  obtain ⟨worker, putting, free, onIdle, accepted, balance⟩ := balanced
  constructor <;> grind [Producer.awaited]

theorem PeriodicBalanced.start (balanced : PeriodicBalanced s) (submitted : s.task = .submitted)
    (free : s.worker = .free) : PeriodicBalanced
      { s with worker := .putting 0, task := .running, interrupted := false, answers := [] } := by
  obtain ⟨worker, putting, onFree, onIdle, accepted, balance⟩ := balanced
  constructor <;> grind [Producer.awaited]

theorem PeriodicBalanced.put (balanced : PeriodicBalanced s) (answer : Bool) (putting : s.worker = .putting 0)
    (counted : answer = true → s.task = .running ∧ s.caller = .waiting) : PeriodicBalanced
      { s with
        worker := .returning
        interrupted := s.interrupted && answer
        accepted := s.accepted + if answer then 1 else 0
        answers := answer :: s.answers } := by
  obtain ⟨worker, onPutting, free, onIdle, accepted, balance⟩ := balanced
  cases answer <;> constructor <;> grind [Producer.awaited]

theorem PeriodicBalanced.finish (balanced : PeriodicBalanced s) :
    PeriodicBalanced
      { s with worker := .free, task := if s.task = .running then .finished else s.task } := by
  obtain ⟨worker, putting, free, onIdle, accepted, balance⟩ := balanced
  constructor <;> grind [Producer.awaited]

theorem PeriodicBalanced.getReturns (balanced : PeriodicBalanced s) (waiting : s.caller = .waiting)
    (finished : s.task = .finished) (taken : true ∈ s.answers) :
    PeriodicBalanced { s with caller := .idle, produced := s.produced + 1 } := by
  obtain ⟨worker, putting, free, onIdle, accepted, balance⟩ := balanced
  constructor <;> grind [Producer.awaited]

theorem PeriodicBalanced.timeout (balanced : PeriodicBalanced s) (waiting : s.caller = .waiting)
    (unfinished : s.task ≠ .finished) (nothing : s.task = .running → true ∉ s.answers) :
    PeriodicBalanced { s with caller := .timedOut } := by
  obtain ⟨worker, putting, free, onIdle, accepted, balance⟩ := balanced
  constructor <;> grind [Producer.awaited]

theorem PeriodicBalanced.cancel (balanced : PeriodicBalanced s) (late : s.caller = .timedOut)
    (unfinished : s.task = .submitted ∨ s.task = .running) (interrupted : Bool) :
    PeriodicBalanced { s with caller := .idle, task := .cancelled, interrupted } := by
  obtain ⟨worker, putting, free, onIdle, accepted, balance⟩ := balanced
  constructor <;> grind [Producer.awaited]

theorem PeriodicBalanced.cancelDone (balanced : PeriodicBalanced s) (late : s.caller = .timedOut)
    (submitted : s.task ≠ .submitted) (running : s.task ≠ .running) :
    PeriodicBalanced { s with caller := .idle } := by
  obtain ⟨worker, putting, free, onIdle, accepted, balance⟩ := balanced
  constructor <;> grind [Producer.awaited]

theorem PeriodicBalanced.drain (balanced : PeriodicBalanced s) :
    PeriodicBalanced { s with produced := 0, drained := s.drained + s.produced } := by
  obtain ⟨worker, putting, free, onIdle, accepted, balance⟩ := balanced
  constructor <;> grind [Producer.awaited]

end Periodic

theorem periodicBalanced_step (s : Producer) (action : Action) (t : Producer) (balanced : PeriodicBalanced s)
    (counted : CountedWhenAccepted .periodic s action) (h : step .periodic s action = some t) :
    PeriodicBalanced t := by
  cases step_moves h with
  | submit idle => exact balanced.submit idle
  | start free submitted => exact balanced.start submitted free
  | put i answer putting =>
    rcases balanced.worker with here | here | here <;> cases putting.symm.trans here
    apply balanced.put answer here
    rintro rfl
    exact counted
  | finish returning => exact balanced.finish
  | getReturns waiting finished => exact balanced.getReturns waiting finished counted
  | timeout waiting unfinished => exact balanced.timeout waiting unfinished counted
  | cancel late unfinished interrupted => exact balanced.cancel late unfinished interrupted
  | cancelDone late submitted running => exact balanced.cancelDone late submitted running
  | getProductionCount => exact balanced.drain
  -- the statements of the burst alone
  | putNext _ elsewhere | leaveLoop _ elsewhere | addAndGet _ elsewhere | sleep elsewhere =>
    rcases balanced.worker with here | here | here <;> cases elsewhere.symm.trans here

theorem BurstBalanced.keeps {s t : Producer} (balanced : BurstBalanced s) (accepted : t.accepted = s.accepted)
    (counted : t.drained + t.produced = s.drained + s.produced) (adding : t.adding = s.adding) :
    BurstBalanced t := by
  unfold BurstBalanced at balanced ⊢
  omega

theorem burstBalanced_step (s : Producer) (action : Action) (t : Producer) (balanced : BurstBalanced s)
    (counted : CountedWhenAccepted .burst s action) (h : step .burst s action = some t) :
    BurstBalanced t := by
  cases step_moves h with
  | put i answer putting =>
    have taken : answer = true := counted
    have before : s.adding = 0 := by simp [Producer.adding, putting]
    unfold BurstBalanced at balanced ⊢
    simp only [taken, if_true, Kind.afterPut, Producer.adding]
    omega
  | addAndGet i adding =>
    have before : s.adding = 1 := by simp [Producer.adding, adding]
    unfold BurstBalanced at balanced ⊢
    simp only [Producer.adding]
    omega
  | start free => exact balanced.keeps rfl rfl (by simp [Producer.adding, free, Kind.call])
  | putNext _ testing | leaveLoop _ testing => exact balanced.keeps rfl rfl (by simp [Producer.adding, testing])
  | sleep sleeping => exact balanced.keeps rfl rfl (by simp [Producer.adding, sleeping])
  | finish returning => exact balanced.keeps rfl rfl (by simp [Producer.adding, returning])
  | submit | getReturns | timeout | cancel | cancelDone => exact balanced.keeps rfl rfl rfl
  | getProductionCount => exact balanced.keeps rfl (Nat.add_zero _) rfl

theorem PeriodicBalanced.countsAccepted {s : Producer} (balanced : PeriodicBalanced s) : CountsAccepted s := by
  intro quiet
  have none : s.awaited = 0 := by
    apply if_neg
    rintro ⟨-, running | ⟨-, waiting⟩⟩
    · exact (balanced.idle quiet.1).2 running
    · cases quiet.1.symm.trans waiting
  have balance := balanced.balance
  omega

theorem BurstBalanced.countsAccepted {s : Producer} (balanced : BurstBalanced s) : CountsAccepted s := by
  intro quiet
  have none : s.adding = 0 := by simp [Producer.adding, quiet.2]
  unfold BurstBalanced at balanced
  omega

/-- The counts of both producers are exact in every run in which each sample is counted just if it is
    accepted. -/
theorem production_counts_accepted (kind : Kind) (actions : List Action) (final : Producer)
    (counted : Meets (step kind) (CountedWhenAccepted kind) .initial actions)
    (run : exec (step kind) .initial actions = some final) : CountsAccepted final := by
  cases kind with
  | periodic =>
    have start : PeriodicBalanced .initial := by
      constructor <;> simp [Producer.initial, Producer.awaited]
    exact (meets_invariant periodicBalanced_step start counted run).countsAccepted
  | burst =>
    have start : BurstBalanced .initial := rfl
    exact (meets_invariant burstBalanced_step start counted run).countsAccepted

/-- A round whose `put` is interrupted while it waits for room, and one that succeeds. -/
def retriedPeriodic : List Action :=
  [.submit, .start, .timeout, .cancel, .submit, .put false, .finish, .start, .put true, .finish, .getReturns,
    .getProductionCount]

def shortBurst : List Action :=
  [.submit, .start, .test, .put true, .addAndGet, .getProductionCount, .test, .put true, .addAndGet, .timeout,
    .cancel, .test, .sleep, .finish]

theorem production_counts_accepted_rounds :
    (∃ final, exec (step .periodic) .initial retriedPeriodic = some final ∧ final.Quiet ∧ final.drained = 1 ∧
      CountsAccepted final) ∧
    ∃ final, exec (step .burst) .initial shortBurst = some final ∧ final.Quiet ∧ final.drained = 1 ∧
      final.produced = 1 ∧ CountsAccepted final := by
  have periodic : Meets (step .periodic) (CountedWhenAccepted .periodic) .initial retriedPeriodic := by decide +kernel
  have burst : Meets (step .burst) (CountedWhenAccepted .burst) .initial shortBurst := by decide +kernel
  have counted : exec (step .periodic) .initial retriedPeriodic =
      some ⟨.idle, .finished, .free, false, 0, 1, 1, [true]⟩ := by decide
  have cut : exec (step .burst) .initial shortBurst =
      some ⟨.idle, .cancelled, .free, false, 1, 1, 2, [true, true]⟩ := by decide
  exact ⟨⟨_, counted, ⟨rfl, rfl⟩, rfl, production_counts_accepted .periodic retriedPeriodic _ periodic counted⟩,
    ⟨_, cut, ⟨rfl, rfl⟩, rfl, rfl, production_counts_accepted .burst shortBurst _ burst cut⟩⟩

/-- The queue takes the sample, and the timeout comes before the task has ended. -/
def lateReturn : List Action :=
  [.submit, .start, .put true, .timeout, .cancel, .finish, .getProductionCount]

def storedSample : List Action := [.test, .put true, .addAndGet]

/-- The second `put` of the burst waits for room and is interrupted, which the test of the loop does not see. -/
def interruptedBurst : List Action :=
  List.flatten ([.submit, .start] :: storedSample :: [.test, .timeout, .cancel, .put false, .addAndGet] ::
    List.replicate 8 storedSample ++ [[.test, .sleep, .finish, .getProductionCount]])

theorem production_miscounted :
    (∃ final, exec (step .periodic) .initial lateReturn = some final ∧ final.Quiet ∧ final.accepted = 1 ∧
      final.drained = 0 ∧ final.produced = 0 ∧ ¬ CountsAccepted final) ∧
    ∃ final, exec (step .burst) .initial interruptedBurst = some final ∧ final.Quiet ∧ final.accepted = 9 ∧
      final.drained = 10 ∧ final.produced = 0 ∧ ¬ CountsAccepted final := by
  have late : exec (step .periodic) .initial lateReturn =
      some ⟨.idle, .cancelled, .free, true, 0, 0, 1, [true]⟩ := by decide
  have interrupted : exec (step .burst) .initial interruptedBurst =
      some ⟨.idle, .cancelled, .free, false, 0, 10, 9, List.replicate 8 true ++ [false, true]⟩ := by decide +kernel
  exact ⟨⟨_, late, ⟨rfl, rfl⟩, rfl, rfl, rfl, fun counts => absurd (counts ⟨rfl, rfl⟩) (by decide)⟩,
    ⟨_, interrupted, ⟨rfl, rfl⟩, rfl, rfl, rfl, fun counts => absurd (counts ⟨rfl, rfl⟩) (by decide)⟩⟩

end SampleProduction
