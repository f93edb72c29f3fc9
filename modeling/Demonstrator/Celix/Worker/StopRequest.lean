import Demonstrator.Transition.Runs
import Mathlib.Logic.Function.Basic

namespace Celix.Worker

open Transition

/-- How a worker function of the bundles differs from the others: whether several threads run it
    on one flag, and whether its loop head also tests `status == CELIX_SUCCESS`. -/
structure Loop where
  sharesFlag : Bool
  testsStatus : Bool
  deriving DecidableEq, Repr

def processorReceive : Loop := ⟨false, true⟩

def producerGenerate : Loop := ⟨false, true⟩

def printStatistics : Loop := ⟨false, false⟩

def statPoller : Loop := ⟨true, true⟩

inductive Location where
  | absent
  | entry
  | test (success : Bool)
  | iteration
  | finished
  | joined
  deriving DecidableEq, Repr

def Location.InLoop : Location → Prop
  | .test _ | .iteration => True
  | _ => False

structure Threads where
  running : Bool
  stopRequested : Bool
  location : Nat → Location

def Threads.initial : Threads := ⟨false, false, fun _ => .absent⟩

inductive Action where
  | create (worker : Nat)
  | enter (worker : Nat)
  | test (worker : Nat)
  | iterate (worker : Nat) (success : Bool)
  | stop
  | join (worker : Nat)
  deriving DecidableEq, Repr

def Threads.move (s : Threads) (worker : Nat) (location : Location) : Threads :=
  { s with location := Function.update s.location worker location }

/-- One step of the controller (`create`, `stop`, `join`) or of a worker. A flag of its own has one
    worker, created before the flag can be cleared; `join` returns once the worker has finished. -/
def step (loop : Loop) (s : Threads) : Action → Option Threads
  | .create worker =>
    if s.location worker = .absent ∧ (loop.sharesFlag = true ∨ worker = 0) then some (s.move worker .entry)
    else none
  | .enter worker =>
    -- the worker, not its creator, raises the flag
    if s.location worker = .entry then some { s.move worker (.test true) with running := true } else none
  | .test worker =>
    match s.location worker with
    | .test success =>
      if s.running ∧ (success ∨ ¬ loop.testsStatus) then some (s.move worker .iteration)
      else some (s.move worker .finished)
    | _ => none
  | .iterate worker success =>
    if s.location worker = .iteration then some (s.move worker (.test success)) else none
  | .stop =>
    if loop.sharesFlag = true ∨ s.location 0 ≠ .absent then
      some { s with running := false, stopRequested := true }
    else none
  | .join worker =>
    if s.location worker = .finished then some (s.move worker .joined) else none

def StopHonoured (s : Threads) : Prop :=
  s.stopRequested = true → ∀ worker, ¬ (s.running = true ∧ (s.location worker).InLoop)

/-- The flag is cleared only when every created worker has raised it already, and no worker is
    created after that. -/
def EnteredBeforeStop (s : Threads) : Action → Prop
  | .stop => ∀ worker, s.location worker ≠ .entry
  | .create _ => s.stopRequested = false
  | _ => True

def Quiet (s : Threads) : Prop :=
  s.stopRequested = true → s.running = false ∧ ∀ worker, s.location worker ≠ .entry

theorem quiet_move {s : Threads} {moved : Nat} {location : Location} (quiet : Quiet s)
    (later : location ≠ .entry) : Quiet (s.move moved location) := by
  intro requested
  obtain ⟨lowered, entered⟩ := quiet requested
  refine ⟨lowered, fun worker => ?_⟩
  by_cases same : worker = moved
  · subst same
    simpa [Threads.move] using later
  · simpa [Threads.move, same] using entered worker

theorem quiet_step {loop : Loop} {s t : Threads} {action : Action} (quiet : Quiet s)
    (guarded : EnteredBeforeStop s action) (h : step loop s action = some t) : Quiet t := by
  cases action with
  | create worker =>
    simp only [step] at h
    split at h
    · cases h
      intro requested
      have open' : s.stopRequested = false := guarded
      simp [Threads.move, open'] at requested
    · cases h
  | enter worker =>
    simp only [step] at h
    split at h
    · rename_i entry
      cases h
      intro requested
      -- a worker still at its entry contradicts the request
      exact absurd entry ((quiet requested).2 worker)
    · cases h
  | test worker =>
    simp only [step] at h
    split at h
    · split at h <;> cases h <;> exact quiet_move quiet (by simp)
    · cases h
  | iterate worker success =>
    simp only [step] at h
    split at h
    · cases h
      exact quiet_move quiet (by simp)
    · cases h
  | stop =>
    simp only [step] at h
    split at h
    · cases h
      intro _
      exact ⟨rfl, guarded⟩
    · cases h
  | join worker =>
    simp only [step] at h
    split at h
    · cases h
      exact quiet_move quiet (by simp)
    · cases h

theorem Quiet.honoured {s : Threads} (quiet : Quiet s) : StopHonoured s := by
  intro requested worker raised
  have lowered := (quiet requested).1
  rw [lowered] at raised
  exact absurd raised.1 Bool.false_ne_true

/-- For every worker loop: a run that clears the flag only after the created workers have raised
    it loses no stop request. -/
theorem stop_request_honoured (loop : Loop) (actions : List Action) (final : Threads)
    (entered : Meets (step loop) EnteredBeforeStop Threads.initial actions)
    (run : exec (step loop) Threads.initial actions = some final) : StopHonoured final := by
  have start : Quiet Threads.initial := by
    intro requested
    cases requested
  exact (meets_invariant (fun _ _ _ quiet guarded h => quiet_step quiet guarded h) start entered run).honoured

def orderlyStop : List Action :=
  [.create 0, .enter 0, .test 0, .stop, .iterate 0 true, .test 0, .join 0]

theorem stop_request_honoured_orderly :
    ∃ final, exec (step processorReceive) Threads.initial orderlyStop = some final ∧
      final.stopRequested = true ∧ final.location 0 = .joined ∧ StopHonoured final := by
  refine ⟨_, rfl, rfl, rfl, stop_request_honoured processorReceive orderlyStop _ ?_ rfl⟩
  refine meets_cons rfl rfl (meets_cons True.intro rfl (meets_cons True.intro rfl (meets_cons ?_ rfl
    (meets_cons True.intro rfl (meets_cons True.intro rfl (meets_cons True.intro rfl True.intro))))))
  intro worker
  by_cases same : worker = 0 <;> simp [same, Threads.move, Threads.initial]

def earlyStop : List Action := [.create 0, .stop, .enter 0, .test 0]

theorem early_stop_lost :
    (∃ final, exec (step processorReceive) Threads.initial earlyStop = some final ∧ ¬ StopHonoured final) ∧
    (∃ final, exec (step producerGenerate) Threads.initial earlyStop = some final ∧ ¬ StopHonoured final) ∧
    (∃ final, exec (step printStatistics) Threads.initial earlyStop = some final ∧ ¬ StopHonoured final) ∧
    (∃ final, exec (step statPoller) Threads.initial earlyStop = some final ∧ ¬ StopHonoured final) :=
  ⟨⟨_, rfl, fun honoured => honoured rfl 0 ⟨rfl, True.intro⟩⟩,
    ⟨_, rfl, fun honoured => honoured rfl 0 ⟨rfl, True.intro⟩⟩,
    ⟨_, rfl, fun honoured => honoured rfl 0 ⟨rfl, True.intro⟩⟩,
    ⟨_, rfl, fun honoured => honoured rfl 0 ⟨rfl, True.intro⟩⟩⟩

end Celix.Worker
