import Demonstrator.Java.Pipeline.Rounds

namespace SampleProduction

open Pipeline (Caller Task)

inductive Kind where
  | periodic
  | burst
  deriving DecidableEq, Repr

def BURST_LENGTH : Nat := 10

/-- The thread of the executor. The loop of the burst is at its test, inside `put`, and before `addAndGet`. -/
inductive Worker where
  | free
  | testing (i : Nat)
  | putting (i : Nat)
  | adding (i : Nat)
  | sleeping
  | returning
  deriving DecidableEq, Repr

/-- A producer, with the sum of what `getProductionCount` has returned, the number of its `put` calls that
    returned true, and what the `put` calls of the last started task have answered, the latest first. -/
structure Producer where
  caller : Caller
  task : Task
  worker : Worker
  interrupted : Bool
  produced : Nat
  drained : Nat
  accepted : Nat
  answers : List Bool
  deriving DecidableEq, Repr

def Producer.initial : Producer := ⟨.idle, .absent, .free, false, 0, 0, 0, []⟩

inductive Action where
  | submit
  | start
  | test
  | put (answer : Bool)
  | addAndGet
  | sleep
  | finish
  | getReturns
  | timeout
  | cancel
  | getProductionCount
  deriving DecidableEq, Repr

def Kind.call : Kind → Worker
  | .periodic => .putting 0
  | .burst => .testing 0

def Kind.afterPut (i : Nat) : Kind → Worker
  | .periodic => .returning
  | .burst => .adding i

def Kind.afterGet : Kind → Nat
  | .periodic => 1
  | .burst => 0

/-- The statements of `produceSampleData` and of the task it submits. A step is disabled while the thread is
    elsewhere. Both tasks ignore what `put` returns. -/
def step (kind : Kind) (s : Producer) : Action → Option Producer
  | .submit => if s.caller = .idle then some { s with caller := .waiting, task := .submitted } else none
  | .start =>
    -- the executor clears a leftover interrupt before it runs a task
    if s.worker = .free ∧ s.task = .submitted then
      some { s with worker := kind.call, task := .running, interrupted := false, answers := [] }
    else none
  | .test =>
    match s.worker with
    | .testing i =>
      some { s with worker := if s.interrupted = false ∧ i < BURST_LENGTH then .putting i else .sleeping }
    | _ => none
  | .put answer =>
    match s.worker with
    | .putting i =>
      some { s with
        worker := kind.afterPut i
        -- the InterruptedException behind the answer false has cleared the interrupt
        interrupted := s.interrupted && answer
        accepted := s.accepted + if answer then 1 else 0
        answers := answer :: s.answers }
    | _ => none
  | .addAndGet =>
    match s.worker with
    | .adding i => some { s with worker := .testing (i + 1), produced := s.produced + 1 }
    | _ => none
  | .sleep => if s.worker = .sleeping then some { s with worker := .returning, interrupted := false } else none
  | .finish =>
    if s.worker = .returning then
      some { s with worker := .free, task := if s.task = .running then .finished else s.task }
    else none
  | .getReturns =>
    if s.caller = .waiting ∧ s.task = .finished then
      some { s with caller := .idle, produced := s.produced + kind.afterGet }
    else none
  | .timeout =>
    if s.caller = .waiting ∧ s.task ≠ .finished then some { s with caller := .timedOut } else none
  | .cancel =>
    if s.caller = .timedOut then
      match s.task with
      | .submitted => some { s with caller := .idle, task := .cancelled }
      | .running => some { s with caller := .idle, task := .cancelled, interrupted := true }
      | _ => some { s with caller := .idle }
    else none
  | .getProductionCount => some { s with produced := 0, drained := s.drained + s.produced }

inductive Moves (kind : Kind) (s : Producer) : Action → Producer → Prop where
  | submit (idle : s.caller = .idle) : Moves kind s .submit { s with caller := .waiting, task := .submitted }
  | start (free : s.worker = .free) (submitted : s.task = .submitted) : Moves kind s .start
      { s with worker := kind.call, task := .running, interrupted := false, answers := [] }
  | putNext (i : Nat) (testing : s.worker = .testing i) : Moves kind s .test { s with worker := .putting i }
  | leaveLoop (i : Nat) (testing : s.worker = .testing i) : Moves kind s .test { s with worker := .sleeping }
  | put (i : Nat) (answer : Bool) (putting : s.worker = .putting i) : Moves kind s (.put answer)
      { s with
        worker := kind.afterPut i
        interrupted := s.interrupted && answer
        accepted := s.accepted + if answer then 1 else 0
        answers := answer :: s.answers }
  | addAndGet (i : Nat) (adding : s.worker = .adding i) : Moves kind s .addAndGet
      { s with worker := .testing (i + 1), produced := s.produced + 1 }
  | sleep (sleeping : s.worker = .sleeping) : Moves kind s .sleep { s with worker := .returning, interrupted := false }
  | finish (returning : s.worker = .returning) : Moves kind s .finish
      { s with worker := .free, task := if s.task = .running then .finished else s.task }
  | getReturns (waiting : s.caller = .waiting) (finished : s.task = .finished) : Moves kind s .getReturns
      { s with caller := .idle, produced := s.produced + kind.afterGet }
  | timeout (waiting : s.caller = .waiting) (unfinished : s.task ≠ .finished) : Moves kind s .timeout
      { s with caller := .timedOut }
  | cancel (late : s.caller = .timedOut) (unfinished : s.task = .submitted ∨ s.task = .running) (interrupted : Bool) :
      Moves kind s .cancel { s with caller := .idle, task := .cancelled, interrupted }
  | cancelDone (late : s.caller = .timedOut) (submitted : s.task ≠ .submitted) (running : s.task ≠ .running) :
      Moves kind s .cancel { s with caller := .idle }
  | getProductionCount : Moves kind s .getProductionCount { s with produced := 0, drained := s.drained + s.produced }

theorem step_moves {kind : Kind} {s t : Producer} {action : Action} (h : step kind s action = some t) :
    Moves kind s action t := by
  cases action with
  | submit =>
    simp only [step] at h
    split at h <;> cases h
    rename_i idle
    exact .submit idle
  | start =>
    simp only [step] at h
    split at h <;> cases h
    rename_i ready
    exact .start ready.1 ready.2
  | test =>
    simp only [step] at h
    split at h <;> cases h
    rename_i i testing
    split
    · exact .putNext i testing
    · exact .leaveLoop i testing
  | put answer =>
    simp only [step] at h
    split at h <;> cases h
    rename_i i putting
    exact .put i answer putting
  | addAndGet =>
    simp only [step] at h
    split at h <;> cases h
    rename_i i adding
    exact .addAndGet i adding
  | sleep =>
    simp only [step] at h
    split at h <;> cases h
    rename_i sleeping
    exact .sleep sleeping
  | finish =>
    simp only [step] at h
    split at h <;> cases h
    rename_i returning
    exact .finish returning
  | getReturns =>
    simp only [step] at h
    split at h <;> cases h
    rename_i ready
    exact .getReturns ready.1 ready.2
  | timeout =>
    simp only [step] at h
    split at h <;> cases h
    rename_i ready
    exact .timeout ready.1 ready.2
  | cancel =>
    simp only [step] at h
    split at h
    · rename_i late
      split at h <;> cases h
      · rename_i submitted
        exact .cancel late (.inl submitted) s.interrupted
      · rename_i running
        exact .cancel late (.inr running) true
      · rename_i notSubmitted notRunning
        exact .cancelDone late notSubmitted notRunning
    · cases h
  | getProductionCount =>
    cases h
    exact .getProductionCount

def Producer.Quiet (s : Producer) : Prop := s.caller = .idle ∧ s.worker = .free

instance (s : Producer) : Decidable s.Quiet := inferInstanceAs (Decidable (_ ∧ _))

end SampleProduction
