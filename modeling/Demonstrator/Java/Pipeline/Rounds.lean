import Mathlib.Data.Rat.Defs
import Mathlib.Logic.Function.Basic
import Mathlib.Algebra.Order.Ring.Unbundled.Rat

namespace Pipeline

structure Sample where
  sampleTime : Int
  value1 : ℚ
  value2 : ℚ
  deriving DecidableEq

structure Result where
  processingTime : Int
  result1 : ℚ
  sample : Option Sample
  deriving DecidableEq

def maxQueueSize : Nat := 10 * 1000

def maxStoreSize : Nat := 1 * 1000 * 1000

inductive Exit where
  | nullPointerException
  deriving DecidableEq, Repr

def findResultsBetween (begin' end' : Int) : List Result → Except Exit (List Result)
  | [] => .ok []
  | result :: later =>
    match result.sample with
    | none => .error .nullPointerException
    | some sample =>
      (findResultsBetween begin' end' later).map fun results =>
        if begin' ≤ sample.value1 ∧ sample.value2 ≤ end' then result :: results else results

inductive Caller where
  | idle
  | waiting
  | timedOut
  deriving DecidableEq, Repr

inductive Task where
  | absent
  | submitted
  | running
  | finished
  | cancelled
  deriving DecidableEq, Repr

/-- The thread of the executor. `checked` is inside `store`, after the test of the size. -/
inductive Worker where
  | free
  | taking
  | taken (sample : Option Sample)
  | built (result : Result)
  | checked (result : Result)
  | stored
  deriving DecidableEq

structure Processor where
  caller : Caller
  task : Task
  worker : Worker
  interrupted : Bool
  processed : Nat

def Processor.initial : Processor := ⟨.idle, .absent, .free, false, 0⟩

structure System where
  queue : List Sample
  store : List Result
  processor : Nat → Processor

def System.initial : System := ⟨[], [], fun _ => .initial⟩

inductive Action where
  | submit (p : Nat)
  | start (p : Nat)
  | take (p : Nat)
  | build (p : Nat)
  | checkSize (p : Nat)
  | add (p : Nat)
  | finish (p : Nat)
  | getReturns (p : Nat)
  | timeout (p : Nat)
  | cancel (p : Nat)
  | clientPut (sample : Sample)
  | clientTake

def System.update (s : System) (p : Nat) (processor : Processor) : System :=
  { s with processor := Function.update s.processor p processor }

/-- The statements of `processSampleData` and of the task it submits. A step is disabled while the
    thread is elsewhere or blocked. -/
def step (s : System) : Action → Option System
  | .submit p =>
    let here := s.processor p
    if here.caller = .idle then some (s.update p { here with caller := .waiting, task := .submitted }) else none
  | .start p =>
    let here := s.processor p
    -- the executor clears a leftover interrupt before it runs a task
    if here.worker = .free ∧ here.task = .submitted then
      some (s.update p { here with worker := .taking, task := .running, interrupted := false })
    else none
  | .take p =>
    let here := s.processor p
    if here.worker = .taking then
      if here.interrupted then
        some (s.update p { here with worker := .taken none, interrupted := false })
      else
        match s.queue with
        | [] => none
        | sample :: queue => some { s.update p { here with worker := .taken (some sample) } with queue }
    else none
  | .build p =>
    let here := s.processor p
    match here.worker with
    | .taken sample => some (s.update p { here with worker := .built ⟨10, 1, sample⟩ })
    | _ => none
  | .checkSize p =>
    let here := s.processor p
    match here.worker with
    | .built result =>
      if s.store.length < maxStoreSize then some (s.update p { here with worker := .checked result })
      else some (s.update p { here with worker := .stored })
    | _ => none
  | .add p =>
    let here := s.processor p
    match here.worker with
    | .checked result => some { s.update p { here with worker := .stored } with store := s.store ++ [result] }
    | _ => none
  | .finish p =>
    let here := s.processor p
    if here.worker = .stored then
      let task := if here.task = .running then .finished else here.task
      some (s.update p { here with worker := .free, task })
    else none
  | .getReturns p =>
    let here := s.processor p
    if here.caller = .waiting ∧ here.task = .finished then
      some (s.update p { here with caller := .idle, processed := here.processed + 1 })
    else none
  | .timeout p =>
    let here := s.processor p
    if here.caller = .waiting ∧ here.task ≠ .finished then some (s.update p { here with caller := .timedOut })
    else none
  | .cancel p =>
    let here := s.processor p
    if here.caller = .timedOut then
      match here.task with
      | .submitted => some (s.update p { here with caller := .idle, task := .cancelled })
      | .running => some (s.update p { here with caller := .idle, task := .cancelled, interrupted := true })
      | _ => some (s.update p { here with caller := .idle })
    else none
  | .clientPut sample =>
    if s.queue.length < maxQueueSize then some { s with queue := s.queue ++ [sample] } else none
  | .clientTake =>
    match s.queue with
    | [] => none
    | _ :: queue => some { s with queue }

inductive Moves (s : System) : Action → System → Prop where
  | submit (p : Nat) (idle : (s.processor p).caller = .idle) : Moves s (.submit p)
      (s.update p { s.processor p with caller := .waiting, task := .submitted })
  | start (p : Nat) (free : (s.processor p).worker = .free) (submitted : (s.processor p).task = .submitted) :
      Moves s (.start p)
        (s.update p { s.processor p with worker := .taking, task := .running, interrupted := false })
  | interrupted (p : Nat) (taking : (s.processor p).worker = .taking)
      (interrupted : (s.processor p).interrupted = true) : Moves s (.take p)
      (s.update p { s.processor p with worker := .taken none, interrupted := false })
  | take (p : Nat) (sample : Sample) (queue : List Sample) (taking : (s.processor p).worker = .taking)
      (undisturbed : (s.processor p).interrupted = false) (first : s.queue = sample :: queue) : Moves s (.take p)
      { s.update p { s.processor p with worker := .taken (some sample) } with queue }
  | build (p : Nat) (sample : Option Sample) (taken : (s.processor p).worker = .taken sample) :
      Moves s (.build p) (s.update p { s.processor p with worker := .built ⟨10, 1, sample⟩ })
  | checkSize (p : Nat) (result : Result) (built : (s.processor p).worker = .built result)
      (room : s.store.length < maxStoreSize) : Moves s (.checkSize p)
      (s.update p { s.processor p with worker := .checked result })
  | full (p : Nat) (result : Result) (built : (s.processor p).worker = .built result)
      (full : ¬ s.store.length < maxStoreSize) : Moves s (.checkSize p)
      (s.update p { s.processor p with worker := .stored })
  | add (p : Nat) (result : Result) (checked : (s.processor p).worker = .checked result) : Moves s (.add p)
      { s.update p { s.processor p with worker := .stored } with store := s.store ++ [result] }
  | finish (p : Nat) (stored : (s.processor p).worker = .stored) : Moves s (.finish p)
      (s.update p { s.processor p with
        worker := .free
        task := if (s.processor p).task = .running then .finished else (s.processor p).task })
  | getReturns (p : Nat) (waiting : (s.processor p).caller = .waiting)
      (finished : (s.processor p).task = .finished) : Moves s (.getReturns p)
      (s.update p { s.processor p with caller := .idle, processed := (s.processor p).processed + 1 })
  | timeout (p : Nat) (waiting : (s.processor p).caller = .waiting)
      (unfinished : (s.processor p).task ≠ .finished) : Moves s (.timeout p)
      (s.update p { s.processor p with caller := .timedOut })
  | cancelSubmitted (p : Nat) (late : (s.processor p).caller = .timedOut)
      (submitted : (s.processor p).task = .submitted) : Moves s (.cancel p)
      (s.update p { s.processor p with caller := .idle, task := .cancelled })
  | cancelRunning (p : Nat) (late : (s.processor p).caller = .timedOut)
      (running : (s.processor p).task = .running) : Moves s (.cancel p)
      (s.update p { s.processor p with caller := .idle, task := .cancelled, interrupted := true })
  | cancelDone (p : Nat) (late : (s.processor p).caller = .timedOut)
      (notSubmitted : (s.processor p).task ≠ .submitted) (notRunning : (s.processor p).task ≠ .running) :
      Moves s (.cancel p) (s.update p { s.processor p with caller := .idle })
  | clientPut (sample : Sample) (room : s.queue.length < maxQueueSize) : Moves s (.clientPut sample)
      { s with queue := s.queue ++ [sample] }
  | clientTake (sample : Sample) (queue : List Sample) (first : s.queue = sample :: queue) :
      Moves s .clientTake { s with queue }

theorem step_moves {s t : System} {action : Action} (h : step s action = some t) : Moves s action t := by
  cases action with
  | submit p =>
    simp only [step] at h
    split at h <;> cases h
    rename_i idle
    exact .submit p idle
  | start p =>
    simp only [step] at h
    split at h <;> cases h
    rename_i ready
    exact .start p ready.1 ready.2
  | take p =>
    simp only [step] at h
    split at h
    · rename_i taking
      split at h
      · rename_i interrupted
        cases h
        exact .interrupted p taking interrupted
      · rename_i undisturbed
        split at h <;> cases h
        rename_i sample queue first
        exact .take p sample queue taking (Bool.eq_false_iff.mpr undisturbed) first
    · cases h
  | build p =>
    simp only [step] at h
    split at h <;> cases h
    rename_i sample taken
    exact .build p sample taken
  | checkSize p =>
    simp only [step] at h
    split at h
    · rename_i result built
      split at h <;> cases h
      · rename_i room
        exact .checkSize p result built room
      · rename_i full
        exact .full p result built full
    · cases h
  | add p =>
    simp only [step] at h
    split at h <;> cases h
    rename_i result checked
    exact .add p result checked
  | finish p =>
    simp only [step] at h
    split at h <;> cases h
    rename_i stored
    exact .finish p stored
  | getReturns p =>
    simp only [step] at h
    split at h <;> cases h
    rename_i ready
    exact .getReturns p ready.1 ready.2
  | timeout p =>
    simp only [step] at h
    split at h <;> cases h
    rename_i ready
    exact .timeout p ready.1 ready.2
  | cancel p =>
    simp only [step] at h
    split at h
    · rename_i late
      split at h <;> cases h
      · rename_i submitted
        exact .cancelSubmitted p late submitted
      · rename_i running
        exact .cancelRunning p late running
      · rename_i notSubmitted notRunning
        exact .cancelDone p late notSubmitted notRunning
    · cases h
  | clientPut sample =>
    simp only [step] at h
    split at h <;> cases h
    rename_i room
    exact .clientPut sample room
  | clientTake =>
    simp only [step] at h
    split at h <;> cases h
    rename_i sample queue first
    exact .clientTake sample queue first

end Pipeline
