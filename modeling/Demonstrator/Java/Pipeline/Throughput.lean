import Demonstrator.Java.Pipeline.Rounds
import Demonstrator.Transition.Runs

namespace Pipeline

open Transition

/-- The pipeline with its statistics: for each processor the sum of what `getProcessedCount` has returned, and
    the number of its `store` calls that were completed with a sample from the queue. -/
structure Metered where
  system : System
  returned : Nat → Nat
  transferred : Nat → Nat

def Metered.initial : Metered := ⟨.initial, fun _ => 0, fun _ => 0⟩

inductive MeteredAction where
  | run (action : Action)
  | getProcessedCount (p : Nat)

/-- The processor whose `store` call the step completes, when the call stores a sample: it returns after the
    `add`, or after the test when the store is full. -/
def transfers (s : System) : Action → Option Nat
  | .add p =>
    match (s.processor p).worker with
    | .checked result => if result.sample.isSome then some p else none
    | _ => none
  | .checkSize p =>
    match (s.processor p).worker with
    | .built result => if ¬ s.store.length < maxStoreSize ∧ result.sample.isSome then some p else none
    | _ => none
  | _ => none

def Metered.advance (s : Metered) (action : Action) (system : System) : Metered :=
  { s with
    system
    transferred := fun p => s.transferred p + if transfers s.system action = some p then 1 else 0 }

def Metered.step (s : Metered) : MeteredAction → Option Metered
  | .run action => (Pipeline.step s.system action).map (s.advance action)
  | .getProcessedCount p =>
    let here := s.system.processor p
    some
      { s with
        system := s.system.update p { here with processed := 0 }
        returned := Function.update s.returned p (s.returned p + here.processed) }

def Metered.Quiet (s : Metered) (p : Nat) : Prop :=
  (s.system.processor p).caller = .idle ∧ (s.system.processor p).worker = .free

def CountsTransfers (s : Metered) : Prop :=
  ∀ p, s.Quiet p → s.returned p + (s.system.processor p).processed = s.transferred p

/-- A round is given up only while its worker has no sample, and the worker gets none before the
    cancellation reaches it. -/
def GivenUpEmpty (s : Metered) : MeteredAction → Prop
  | .run (.timeout p) => (s.system.processor p).task = .running → (s.system.processor p).worker = .taking
  | .run (.take p) => (s.system.processor p).caller = .timedOut → (s.system.processor p).interrupted = true
  | _ => True

def Worker.sample : Worker → Option (Option Sample)
  | .taken sample => some sample
  | .built result | .checked result => some result.sample
  | .free | .taking | .stored => none

def Processor.uncounted (processor : Processor) : Nat :=
  match processor.task, processor.worker, processor.caller with
  | .running, .stored, _ => 1
  | .finished, _, .waiting => 1
  | _, _, _ => 0

structure Settled (processor : Processor) (returned transferred : Nat) : Prop where
  free : processor.worker = .free → processor.task ≠ .running
  taking : processor.worker = .taking → (processor.task = .running ↔ processor.interrupted = false)
  holding : ∀ sample, processor.worker.sample = some sample → (processor.task = .running ↔ sample ≠ none)
  idle : processor.caller = .idle → processor.task ≠ .submitted ∧ processor.task ≠ .running
  timedOut : processor.caller = .timedOut →
    processor.task = .submitted ∨ processor.task = .running ∧ processor.worker = .taking
  waiting : processor.caller = .waiting →
    processor.task = .submitted ∨ processor.task = .running ∨ processor.task = .finished
  balance : transferred = returned + processor.processed + processor.uncounted

def Balanced (s : Metered) : Prop :=
  ∀ p, Settled (s.system.processor p) (s.returned p) (s.transferred p)

theorem Balanced.move {s : Metered} (balanced : Balanced s) (p : Nat) {system : System} {action : Action}
    {processor : Processor} (moved : system.processor = Function.update s.system.processor p processor)
    (elsewhere : ∀ other, transfers s.system action = some other → other = p)
    (settled : Settled processor (s.returned p)
      (s.transferred p + if transfers s.system action = some p then 1 else 0)) :
    Balanced (s.advance action system) := by
  intro other
  by_cases same : other = p
  · subst same
    simpa [Metered.advance, moved] using settled
  · have none : transfers s.system action ≠ some other := fun found => same (elsewhere other found)
    simpa [Metered.advance, moved, same, none] using balanced other

section Moves

variable {processor : Processor} {returned transferred : Nat}

theorem Settled.submit (settled : Settled processor returned transferred) (idle : processor.caller = .idle) :
    Settled { processor with caller := .waiting, task := .submitted } returned transferred := by
  obtain ⟨onFree, onTaking, onHolding, onIdle, onTimedOut, onWaiting, balance⟩ := settled
  constructor <;> grind [Processor.uncounted]

theorem Settled.start (settled : Settled processor returned transferred) (submitted : processor.task = .submitted) :
    Settled { processor with worker := .taking, task := .running, interrupted := false } returned
      transferred := by
  obtain ⟨onFree, onTaking, onHolding, onIdle, onTimedOut, onWaiting, balance⟩ := settled
  constructor <;> grind [Processor.uncounted, Worker.sample]

theorem Settled.interrupt (settled : Settled processor returned transferred) (taking : processor.worker = .taking)
    (interrupted : processor.interrupted = true) :
    Settled { processor with worker := .taken none, interrupted := false } returned transferred := by
  obtain ⟨onFree, onTaking, onHolding, onIdle, onTimedOut, onWaiting, balance⟩ := settled
  constructor <;> grind [Processor.uncounted, Worker.sample]

theorem Settled.take (settled : Settled processor returned transferred) (taking : processor.worker = .taking)
    (undisturbed : processor.interrupted = false) (awaited : processor.caller ≠ .timedOut) (sample : Sample) :
    Settled { processor with worker := .taken (some sample) } returned transferred := by
  obtain ⟨onFree, onTaking, onHolding, onIdle, onTimedOut, onWaiting, balance⟩ := settled
  constructor <;> grind [Processor.uncounted, Worker.sample]

theorem Settled.build (settled : Settled processor returned transferred) {sample : Option Sample}
    (taken : processor.worker = .taken sample) :
    Settled { processor with worker := .built ⟨10, 1, sample⟩ } returned transferred := by
  obtain ⟨onFree, onTaking, onHolding, onIdle, onTimedOut, onWaiting, balance⟩ := settled
  constructor <;> grind [Processor.uncounted, Worker.sample]

theorem Settled.check (settled : Settled processor returned transferred) {result : Result}
    (built : processor.worker = .built result) :
    Settled { processor with worker := .checked result } returned transferred := by
  obtain ⟨onFree, onTaking, onHolding, onIdle, onTimedOut, onWaiting, balance⟩ := settled
  constructor <;> grind [Processor.uncounted, Worker.sample]

theorem Settled.stored (settled : Settled processor returned transferred) {result : Result}
    (held : processor.worker = .built result ∨ processor.worker = .checked result) :
    Settled { processor with worker := .stored } returned
      (transferred + if result.sample = none then 0 else 1) := by
  obtain ⟨onFree, onTaking, onHolding, onIdle, onTimedOut, onWaiting, balance⟩ := settled
  have held' : processor.worker.sample = some result.sample := by
    rcases held with built | checked
    · rw [built]
      rfl
    · rw [checked]
      rfl
  have sampled := onHolding result.sample held'
  constructor <;> grind [Processor.uncounted, Worker.sample]

theorem Settled.finish (settled : Settled processor returned transferred) (stored : processor.worker = .stored) :
    Settled
      { processor with worker := .free, task := if processor.task = .running then .finished else processor.task }
      returned transferred := by
  obtain ⟨onFree, onTaking, onHolding, onIdle, onTimedOut, onWaiting, balance⟩ := settled
  cases caller : processor.caller <;> constructor <;> grind [Processor.uncounted, Worker.sample]

theorem Settled.getReturns (settled : Settled processor returned transferred)
    (waiting : processor.caller = .waiting) (finished : processor.task = .finished) :
    Settled { processor with caller := .idle, processed := processor.processed + 1 } returned transferred := by
  obtain ⟨onFree, onTaking, onHolding, onIdle, onTimedOut, onWaiting, balance⟩ := settled
  constructor <;> grind [Processor.uncounted]

theorem Settled.timeout (settled : Settled processor returned transferred) (waiting : processor.caller = .waiting)
    (unfinished : processor.task ≠ .finished) (empty : processor.task = .running → processor.worker = .taking) :
    Settled { processor with caller := .timedOut } returned transferred := by
  obtain ⟨onFree, onTaking, onHolding, onIdle, onTimedOut, onWaiting, balance⟩ := settled
  constructor <;> grind [Processor.uncounted]

theorem Settled.cancelSubmitted (settled : Settled processor returned transferred)
    (submitted : processor.task = .submitted) :
    Settled { processor with caller := .idle, task := .cancelled } returned transferred := by
  obtain ⟨onFree, onTaking, onHolding, onIdle, onTimedOut, onWaiting, balance⟩ := settled
  constructor <;> grind [Processor.uncounted]

theorem Settled.cancelRunning (settled : Settled processor returned transferred)
    (timedOut : processor.caller = .timedOut) (running : processor.task = .running) :
    Settled { processor with caller := .idle, task := .cancelled, interrupted := true } returned
      transferred := by
  obtain ⟨onFree, onTaking, onHolding, onIdle, onTimedOut, onWaiting, balance⟩ := settled
  constructor <;> grind [Processor.uncounted, Worker.sample]

theorem Settled.drain (settled : Settled processor returned transferred) :
    Settled { processor with processed := 0 } (returned + processor.processed) transferred := by
  obtain ⟨onFree, onTaking, onHolding, onIdle, onTimedOut, onWaiting, balance⟩ := settled
  constructor <;> grind [Processor.uncounted]

end Moves

theorem Balanced.still {s : Metered} (balanced : Balanced s) (p : Nat) {system : System} {action : Action}
    {processor : Processor} (moved : system.processor = Function.update s.system.processor p processor)
    (unmetered : transfers s.system action = none)
    (settled : Settled processor (s.returned p) (s.transferred p)) :
    Balanced (s.advance action system) := by
  apply balanced.move p moved
  · intro other found
    cases unmetered.symm.trans found
  · simpa [unmetered] using settled

theorem Balanced.stored {s : Metered} (balanced : Balanced s) {p : Nat} {system : System} {action : Action}
    {result : Result} (moved : system.processor = Function.update s.system.processor p
      { s.system.processor p with worker := .stored })
    (held : (s.system.processor p).worker = .built result ∨ (s.system.processor p).worker = .checked result)
    (metered : transfers s.system action = if result.sample.isSome then some p else none) :
    Balanced (s.advance action system) := by
  apply balanced.move p moved
  · intro other found
    rw [metered] at found
    split at found <;> cases found
    rfl
  · have stored := (balanced p).stored held
    simpa [metered] using stored

theorem balanced_run {s : Metered} {action : Action} {t : System} (balanced : Balanced s)
    (guarded : GivenUpEmpty s (.run action)) (h : Pipeline.step s.system action = some t) :
    Balanced (s.advance action t) := by
  cases step_moves h with
  | submit p idle => exact balanced.still p rfl rfl ((balanced p).submit idle)
  | start p free submitted => exact balanced.still p rfl rfl ((balanced p).start submitted)
  | interrupted p taking interrupted => exact balanced.still p rfl rfl ((balanced p).interrupt taking interrupted)
  | take p sample queue taking undisturbed =>
    have awaited : (s.system.processor p).caller ≠ .timedOut := by
      intro late
      cases undisturbed.symm.trans (guarded late)
    exact balanced.still p rfl rfl ((balanced p).take taking undisturbed awaited sample)
  | build p sample taken => exact balanced.still p rfl rfl ((balanced p).build taken)
  | checkSize p result built room =>
    have unmetered : transfers s.system (.checkSize p) = none := by simp [transfers, built, room]
    exact balanced.still p rfl unmetered ((balanced p).check built)
  | full p result built full => exact balanced.stored rfl (.inl built) (by simp [transfers, built, full])
  | add p result checked => exact balanced.stored rfl (.inr checked) (by simp [transfers, checked])
  | finish p stored => exact balanced.still p rfl rfl ((balanced p).finish stored)
  | getReturns p waiting finished => exact balanced.still p rfl rfl ((balanced p).getReturns waiting finished)
  | timeout p waiting unfinished => exact balanced.still p rfl rfl ((balanced p).timeout waiting unfinished guarded)
  | cancelSubmitted p late submitted => exact balanced.still p rfl rfl ((balanced p).cancelSubmitted submitted)
  | cancelRunning p late running => exact balanced.still p rfl rfl ((balanced p).cancelRunning late running)
  | cancelDone p late notSubmitted notRunning =>
    -- a round that is given up empty is not finished before its cancellation
    rcases (balanced p).timedOut late with submitted | ⟨running, _⟩
    · exact absurd submitted notSubmitted
    · exact absurd running notRunning
  | clientPut | clientTake =>
    intro p
    simpa [Metered.advance, transfers] using balanced p

theorem balanced_step (s : Metered) (action : MeteredAction) (t : Metered) (balanced : Balanced s)
    (guarded : GivenUpEmpty s action) (h : s.step action = some t) : Balanced t := by
  cases action with
  | run action =>
    obtain ⟨system, stepped, rfl⟩ := Option.map_eq_some_iff.mp h
    exact balanced_run balanced guarded stepped
  | getProcessedCount p =>
    cases h
    intro other
    by_cases same : other = p
    · subst same
      simpa [System.update] using (balanced other).drain
    · simpa [System.update, same] using balanced other

theorem Balanced.countsTransfers {s : Metered} (balanced : Balanced s) : CountsTransfers s := by
  intro p ⟨idle, free⟩
  have balance := (balanced p).balance
  have none : (s.system.processor p).uncounted = 0 := by
    unfold Processor.uncounted
    rw [idle, free]
    split <;> simp_all
  omega

/-- The statistics are exact in every run that gives up a round only when its worker has no sample. -/
theorem throughput_exact (actions : List MeteredAction) (final : Metered)
    (empty : Meets Metered.step GivenUpEmpty Metered.initial actions)
    (run : exec Metered.step Metered.initial actions = some final) : CountsTransfers final := by
  have start : Balanced Metered.initial := by
    intro p
    constructor <;> simp [Metered.initial, System.initial, Processor.initial, Processor.uncounted, Worker.sample]
  exact (meets_invariant balanced_step start empty run).countsTransfers

def oneRound : List MeteredAction :=
  [.run (.clientPut ⟨1, 2, 3⟩), .run (.submit 0), .run (.start 0), .run (.take 0), .run (.build 0),
    .run (.checkSize 0), .run (.add 0), .run (.finish 0), .run (.getReturns 0), .getProcessedCount 0]

theorem throughput_exact_round :
    ∃ final, exec Metered.step Metered.initial oneRound = some final ∧ final.Quiet 0 ∧
      final.returned 0 = 1 ∧ CountsTransfers final := by
  have empty : Meets Metered.step GivenUpEmpty Metered.initial oneRound := by
    apply meets_cons True.intro rfl
    apply meets_cons True.intro rfl
    apply meets_cons True.intro rfl
    apply meets_cons (fun late => by cases late) rfl
    apply meets_cons True.intro rfl
    apply meets_cons True.intro rfl
    apply meets_cons True.intro rfl
    apply meets_cons True.intro rfl
    apply meets_cons True.intro rfl
    exact meets_cons True.intro rfl True.intro
  exact ⟨_, rfl, ⟨rfl, rfl⟩, rfl, throughput_exact oneRound _ empty rfl⟩

def timeoutInTask : List MeteredAction :=
  [.run (.clientPut ⟨1, 2, 3⟩), .run (.submit 0), .run (.start 0), .run (.take 0), .run (.timeout 0),
    .run (.cancel 0), .run (.build 0), .run (.checkSize 0), .run (.add 0), .run (.finish 0),
    .getProcessedCount 0]

/-- The worker stores the sample it has taken, whatever the caller does, and the round is not counted. -/
theorem transfer_uncounted :
    ∃ final, exec Metered.step Metered.initial timeoutInTask = some final ∧ final.Quiet 0 ∧
      final.transferred 0 = 1 ∧ final.returned 0 = 0 ∧ (final.system.processor 0).processed = 0 ∧
      ¬ CountsTransfers final :=
  ⟨_, rfl, ⟨rfl, rfl⟩, rfl, rfl, rfl, fun counts => by cases counts 0 ⟨rfl, rfl⟩⟩

end Pipeline
