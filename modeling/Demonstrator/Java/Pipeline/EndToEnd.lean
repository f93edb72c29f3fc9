import Mathlib.Algebra.Order.Group.Multiset
import Demonstrator.Collections.Tallies
import Demonstrator.Java.Pipeline.Throughput
import Demonstrator.Java.Producer.Rounds

namespace Pipeline

open Collections Transition

structure Deployment where
  kinds : List SampleProduction.Kind
  processors : Nat

/-- The producers before a pipeline. `offered` is the sample of the `put` call in progress, once the call has passed
    its first test of the interrupt.
    The rest is the history: who put which sample, what left the queue, what other clients took out of it, the
    samples that found the store full, and how often a cancellation interrupted a running task. -/
structure Line where
  pipeline : System
  producer : Nat → SampleProduction.Producer
  offered : Nat → Option Sample
  accepted : List (Option Nat × Sample)
  removed : List Sample
  handedOver : List Sample
  dropped : List Sample
  interrupts : Nat

namespace Line

def initial : Line := ⟨.initial, fun _ => .initial, fun _ => none, [], [], [], [], 0⟩

inductive Action where
  | produce (q : Nat) (statement : SampleProduction.Action)
  | enter (q : Nat) (sample : Sample)
  | enqueue (q : Nat)
  | interrupt (q : Nat)
  | pipeline (action : Pipeline.Action)

end Line

def Action.processor : Action → Option Nat
  | .submit p | .start p | .take p | .build p | .checkSize p | .add p | .finish p | .getReturns p | .timeout p
  | .cancel p => some p
  | .clientPut _ | .clientTake => none

namespace System

def clientPuts : Action → List Sample
  | .clientPut sample => [sample]
  | _ => []

def taken (s : System) : Action → List Sample
  | .take p => if (s.processor p).interrupted then [] else s.queue.head?.toList
  | _ => []

def clientTakes (s : System) : Action → List Sample
  | .clientTake => s.queue.head?.toList
  | _ => []

def drops (s : System) : Action → List Sample
  | .checkSize p =>
    match (s.processor p).worker with
    | .built result => if s.store.length < maxStoreSize then [] else result.sample.toList
    | _ => []
  | _ => []

def interrupts (s : System) : Action → Nat
  | .cancel p => if (s.processor p).task = .running then 1 else 0
  | _ => 0

end System

namespace Line

def record (s : Line) (action : Pipeline.Action) (pipeline : System) : Line :=
  { s with
    pipeline
    accepted := s.accepted ++ (System.clientPuts action).map (Prod.mk none)
    removed := s.removed ++ (s.pipeline.taken action ++ s.pipeline.clientTakes action)
    handedOver := s.handedOver ++ s.pipeline.clientTakes action
    dropped := s.dropped ++ s.pipeline.drops action
    interrupts := s.interrupts + s.pipeline.interrupts action }

/-- The return of `m_queue.put`, with the answer false after an `InterruptedException`. -/
def putReturns (kind : SampleProduction.Kind) (s : Line) (q : Nat) (answer : Bool) : Option Line :=
  (SampleProduction.step kind (s.producer q) (.put answer)).map fun producer =>
    { s with producer := Function.update s.producer q producer, offered := Function.update s.offered q none }

def step (d : Deployment) (s : Line) : Action → Option Line
  | .produce _ (.put _) => none
  | .produce q statement =>
    d.kinds[q]?.bind fun kind => (SampleProduction.step kind (s.producer q) statement).map fun producer =>
      { s with producer := Function.update s.producer q producer }
  | .enter q sample =>
    d.kinds[q]?.bind fun kind =>
      match (s.producer q).worker, s.offered q with
      | .putting _, none =>
        -- `lockInterruptibly` throws at once in an interrupted thread
        if (s.producer q).interrupted then s.putReturns kind q false
        else some { s with offered := Function.update s.offered q (some sample) }
      | _, _ => none
  | .enqueue q =>
    d.kinds[q]?.bind fun kind =>
      match s.offered q with
      | some sample =>
        (Pipeline.step s.pipeline (.clientPut sample)).bind fun pipeline =>
          (s.putReturns kind q true).map fun next =>
            { next with pipeline, accepted := s.accepted ++ [(some q, sample)] }
      | none => none
  | .interrupt q =>
    d.kinds[q]?.bind fun kind =>
      if (s.offered q).isSome ∧ (s.producer q).interrupted = true then s.putReturns kind q false else none
  | .pipeline action =>
    if ∀ p, action.processor = some p → p < d.processors then
      (Pipeline.step s.pipeline action).map (s.record action)
    else none

end Line

def Worker.held (worker : Worker) : Multiset Sample := worker.sample.join.toList

def storedSamples (store : List Result) : Multiset Sample := store.filterMap Result.sample

def heldSamples (processors : Nat) (processor : Nat → Processor) : Multiset Sample :=
  tally (Finset.range processors) (fun here => here.worker.held) processor

@[simp] theorem Worker.held_taken (sample : Option Sample) : (Worker.taken sample).held = ↑sample.toList := by
  cases sample <;> rfl

@[simp] theorem Worker.held_built (result : Result) : (Worker.built result).held = ↑result.sample.toList := by
  cases sample : result.sample <;> simp [Worker.held, Worker.sample, sample]

@[simp] theorem Worker.held_checked (result : Result) : (Worker.checked result).held = ↑result.sample.toList := by
  cases sample : result.sample <;> simp [Worker.held, Worker.sample, sample]

@[simp] theorem Worker.held_free : Worker.free.held = 0 := rfl

@[simp] theorem Worker.held_taking : Worker.taking.held = 0 := rfl

@[simp] theorem Worker.held_stored : Worker.stored.held = 0 := rfl

theorem filterMap_sample (result : Result) : [result].filterMap Result.sample = result.sample.toList := by
  cases sample : result.sample <;> simp [sample]

@[simp] theorem storedSamples_append (store : List Result) (result : Result) :
    storedSamples (store ++ [result]) = storedSamples store + ↑result.sample.toList := by
  unfold storedSamples
  rw [List.filterMap_append, filterMap_sample, Multiset.coe_add]

def nullResults (store : List Result) : Nat := store.countP (·.sample.isNone)

theorem nullResults_append (store : List Result) (result : Result) :
    nullResults (store ++ [result]) = nullResults store + result.sample.isNone.toNat := by
  cases sample : result.sample <;> simp [nullResults, sample]

def Worker.nulls : Worker → Nat
  | .taken sample => sample.isNone.toNat
  | .built result | .checked result => result.sample.isNone.toNat
  | .free | .taking | .stored => 0

def Processor.pendingNulls (here : Processor) : Nat := here.worker.nulls + here.interrupted.toNat

def pendingNulls (processors : Nat) (processor : Nat → Processor) : Nat :=
  tally (Finset.range processors) Processor.pendingNulls processor

namespace Moves

variable {s t : System} {action : Action} {processors : Nat}

theorem queued (moves : Moves s action t) :
    s.queue ++ System.clientPuts action = s.taken action ++ s.clientTakes action ++ t.queue := by
  cases moves with
  | interrupted p _ interrupted => simp [System.clientPuts, System.taken, System.clientTakes, System.update, interrupted]
  | take p sample queue _ undisturbed first =>
    simp [System.clientPuts, System.taken, System.clientTakes, undisturbed, first]
  | clientTake sample queue first => simp [System.clientPuts, System.taken, System.clientTakes, first]
  | _ => simp [System.clientPuts, System.taken, System.clientTakes, System.update]

theorem placed (within : ∀ p, action.processor = some p → p < processors) (moves : Moves s action t) :
    storedSamples t.store + heldSamples processors t.processor + (s.drops action : Multiset Sample) =
      storedSamples s.store + heldSamples processors s.processor + (s.taken action : Multiset Sample) := by
  cases moves with
  | clientPut | clientTake => rfl
  | take p sample queue taking undisturbed first =>
    refine tally_balance (Finset.mem_range.mpr (within p rfl)) ?_
    simp [System.taken, System.drops, System.update, taking, undisturbed, first]
  | full p result built full =>
    refine tally_balance (Finset.mem_range.mpr (within p rfl)) ?_
    simp [System.taken, System.drops, System.update, built, full]
  | add p result checked =>
    refine tally_balance (Finset.mem_range.mpr (within p rfl)) ?_
    simp [System.taken, System.drops, checked]
  | interrupted p taking interrupted =>
    refine tally_balance (Finset.mem_range.mpr (within p rfl)) ?_
    simp [System.taken, System.drops, System.update, taking, interrupted]
  | checkSize p result built room =>
    refine tally_balance (Finset.mem_range.mpr (within p rfl)) ?_
    simp [System.taken, System.drops, System.update, built, room]
  | build p sample taken =>
    refine tally_balance (Finset.mem_range.mpr (within p rfl)) ?_
    simp [System.taken, System.drops, System.update, taken]
  | start p free =>
    refine tally_balance (Finset.mem_range.mpr (within p rfl)) ?_
    simp [System.taken, System.drops, System.update, free]
  | finish p stored =>
    refine tally_balance (Finset.mem_range.mpr (within p rfl)) ?_
    simp [System.taken, System.drops, System.update, stored]
  | submit p | getReturns p | timeout p | cancelSubmitted p | cancelRunning p | cancelDone p =>
    refine tally_balance (Finset.mem_range.mpr (within p rfl)) ?_
    simp [System.taken, System.drops, System.update]

/-- A `null` comes out of an interrupted `take` alone, and each interrupt ends at most one. -/
theorem nulls (within : ∀ p, action.processor = some p → p < processors) (moves : Moves s action t) :
    nullResults t.store + pendingNulls processors t.processor ≤
      nullResults s.store + pendingNulls processors s.processor + s.interrupts action := by
  cases moves with
  | clientPut | clientTake => rfl
  | take p sample queue taking undisturbed first =>
    refine tally_balance_le (Finset.mem_range.mpr (within p rfl)) ?_
    simp [System.update, Processor.pendingNulls, Worker.nulls, undisturbed]
    omega
  | full p result built full =>
    refine tally_balance_le (Finset.mem_range.mpr (within p rfl)) ?_
    simp only [System.update, Processor.pendingNulls, Worker.nulls]
    omega
  | add p result checked =>
    refine tally_balance_le (Finset.mem_range.mpr (within p rfl)) ?_
    simp only [Processor.pendingNulls, Worker.nulls, checked, nullResults_append]
    omega
  | interrupted p taking interrupted =>
    refine tally_balance_le (Finset.mem_range.mpr (within p rfl)) ?_
    simp [System.update, Processor.pendingNulls, Worker.nulls, taking, interrupted]
  | checkSize p result built room =>
    refine tally_balance_le (Finset.mem_range.mpr (within p rfl)) ?_
    simp [System.update, Processor.pendingNulls, Worker.nulls, built]
  | build p sample taken =>
    refine tally_balance_le (Finset.mem_range.mpr (within p rfl)) ?_
    simp [System.update, Processor.pendingNulls, Worker.nulls, taken]
  | start p free =>
    refine tally_balance_le (Finset.mem_range.mpr (within p rfl)) ?_
    simp [System.update, Processor.pendingNulls, Worker.nulls]
    omega
  | finish p stored =>
    refine tally_balance_le (Finset.mem_range.mpr (within p rfl)) ?_
    simp [System.update, Processor.pendingNulls, Worker.nulls, stored]
  | cancelRunning p late running =>
    refine tally_balance_le (Finset.mem_range.mpr (within p rfl)) ?_
    simp [System.update, Processor.pendingNulls, System.interrupts, running]
    omega
  | submit p | getReturns p | timeout p | cancelSubmitted p | cancelDone p =>
    refine tally_balance_le (Finset.mem_range.mpr (within p rfl)) ?_
    simp [System.update, Processor.pendingNulls]

end Moves

namespace Line

variable {d : Deployment}

inductive Moves (d : Deployment) (s : Line) : Action → Line → Prop where
  | produce (q : Nat) (statement : SampleProduction.Action) (producer : SampleProduction.Producer)
      (accepted : producer.accepted = (s.producer q).accepted) : Moves d s (.produce q statement)
      { s with producer := Function.update s.producer q producer }
  | enter (q : Nat) (sample : Sample) : Moves d s (.enter q sample)
      { s with offered := Function.update s.offered q (some sample) }
  | refused (action : Action) (q : Nat) (producer : SampleProduction.Producer)
      (accepted : producer.accepted = (s.producer q).accepted) : Moves d s action
      { s with producer := Function.update s.producer q producer, offered := Function.update s.offered q none }
  | enqueue (q : Nat) (sample : Sample) (producer : SampleProduction.Producer)
      (accepted : producer.accepted = (s.producer q).accepted + 1) : Moves d s (.enqueue q)
      { s with
        pipeline := { s.pipeline with queue := s.pipeline.queue ++ [sample] }
        producer := Function.update s.producer q producer
        offered := Function.update s.offered q none
        accepted := s.accepted ++ [(some q, sample)] }
  | pipeline (action : Pipeline.Action) (next : System)
      (within : ∀ p, action.processor = some p → p < d.processors) (moves : Pipeline.Moves s.pipeline action next) :
      Moves d s (.pipeline action) (s.record action next)

theorem accepted_of_step {kind : SampleProduction.Kind} {producer next : SampleProduction.Producer}
    {statement : SampleProduction.Action} (elsewhere : ∀ answer, statement ≠ .put answer)
    (h : SampleProduction.step kind producer statement = some next) : next.accepted = producer.accepted := by
  cases SampleProduction.step_moves h with
  | put _ answer => exact absurd rfl (elsewhere answer)
  | _ => rfl

theorem putReturns_some {kind : SampleProduction.Kind} {s t : Line} {q : Nat} {answer : Bool}
    (h : s.putReturns kind q answer = some t) :
    ∃ producer, producer.accepted = (s.producer q).accepted + answer.toNat ∧
      t = { s with producer := Function.update s.producer q producer, offered := Function.update s.offered q none } := by
  simp only [putReturns, Option.map_eq_some_iff] at h
  obtain ⟨producer, moved, rfl⟩ := h
  refine ⟨producer, ?_, rfl⟩
  cases SampleProduction.step_moves moved with
  | put _ _ => cases answer <;> rfl

theorem step_moves {s t : Line} {action : Action} (h : step d s action = some t) : Moves d s action t := by
  cases action with
  | produce q statement =>
    cases statement with
    | put answer => cases h
    | _ =>
      simp only [step, Option.bind_eq_some_iff, Option.map_eq_some_iff] at h
      obtain ⟨kind, _, producer, moved, rfl⟩ := h
      exact .produce q _ producer (accepted_of_step (by simp) moved)
  | enter q sample =>
    simp only [step, Option.bind_eq_some_iff] at h
    obtain ⟨kind, _, h⟩ := h
    split at h
    · split at h
      · obtain ⟨producer, accepted, rfl⟩ := putReturns_some h
        exact .refused _ q producer accepted
      · cases h
        exact .enter q sample
    · cases h
  | enqueue q =>
    simp only [step, Option.bind_eq_some_iff] at h
    obtain ⟨kind, _, h⟩ := h
    split at h
    · rename_i sample _
      simp only [Option.bind_eq_some_iff, Option.map_eq_some_iff] at h
      obtain ⟨pipeline, put, next, returned, rfl⟩ := h
      obtain ⟨producer, accepted, rfl⟩ := putReturns_some returned
      cases Pipeline.step_moves put with
      | clientPut _ room => exact .enqueue q sample producer accepted
    · cases h
  | interrupt q =>
    simp only [step, Option.bind_eq_some_iff] at h
    obtain ⟨kind, _, h⟩ := h
    split at h
    · obtain ⟨producer, accepted, rfl⟩ := putReturns_some h
      exact .refused _ q producer accepted
    · cases h
  | pipeline action =>
    simp only [step] at h
    split at h
    · rename_i within
      simp only [Option.map_eq_some_iff] at h
      obtain ⟨next, moved, rfl⟩ := h
      exact .pipeline action next within (Pipeline.step_moves moved)
    · cases h

structure Conserved (d : Deployment) (s : Line) : Prop where
  queued : s.accepted.map Prod.snd = s.removed ++ s.pipeline.queue
  placed : (s.removed : Multiset Sample) = storedSamples s.pipeline.store +
    heldSamples d.processors s.pipeline.processor + (s.dropped : Multiset Sample) + (s.handedOver : Multiset Sample)
  counted : ∀ q, s.accepted.countP (·.1 = some q) = (s.producer q).accepted
  nulls : nullResults s.pipeline.store + pendingNulls d.processors s.pipeline.processor ≤ s.interrupts

theorem Conserved.initial : Conserved d .initial where
  queued := rfl
  placed := by simp [Line.initial, System.initial, storedSamples, heldSamples, tally, Processor.initial]
  counted _ := rfl
  nulls := by simp [Line.initial, System.initial, nullResults, pendingNulls, tally, Processor.initial,
    Processor.pendingNulls, Worker.nulls]

theorem Conserved.record {s : Line} {action : Pipeline.Action} {next : System} (conserved : Conserved d s)
    (within : ∀ p, action.processor = some p → p < d.processors) (moves : Pipeline.Moves s.pipeline action next) :
    Conserved d (s.record action next) where
  queued := by
    have moved := moves.queued
    simp only [Line.record, List.map_append, List.map_map, Function.comp_def, List.map_id', conserved.queued]
    rw [List.append_assoc, moved]
    simp
  placed := by
    have moved := moves.placed within
    simp only [Line.record, ← Multiset.coe_add, conserved.placed]
    calc storedSamples s.pipeline.store + heldSamples d.processors s.pipeline.processor + ↑s.dropped + ↑s.handedOver +
          (↑(s.pipeline.taken action) + ↑(s.pipeline.clientTakes action))
        = (storedSamples s.pipeline.store + heldSamples d.processors s.pipeline.processor +
            ↑(s.pipeline.taken action)) + ↑s.dropped + (↑s.handedOver + ↑(s.pipeline.clientTakes action)) := by ac_rfl
      _ = (storedSamples next.store + heldSamples d.processors next.processor + ↑(s.pipeline.drops action)) +
            ↑s.dropped + (↑s.handedOver + ↑(s.pipeline.clientTakes action)) := by rw [moved]
      _ = storedSamples next.store + heldSamples d.processors next.processor +
            (↑s.dropped + ↑(s.pipeline.drops action)) + (↑s.handedOver + ↑(s.pipeline.clientTakes action)) := by ac_rfl
  counted q := by
    have others : ((System.clientPuts action).map (Prod.mk (none : Option Nat))).countP (·.1 = some q) = 0 := by
      simp [List.countP_eq_zero]
    simp only [Line.record, List.countP_append, others]
    exact conserved.counted q
  nulls := by
    have moved := moves.nulls within
    have before := conserved.nulls
    simp only [Line.record]
    omega

theorem Conserved.enqueue {s : Line} {q : Nat} {sample : Sample} {producer : SampleProduction.Producer}
    (conserved : Conserved d s) (accepted : producer.accepted = (s.producer q).accepted + 1) : Conserved d
      { s with
        pipeline := { s.pipeline with queue := s.pipeline.queue ++ [sample] }
        producer := Function.update s.producer q producer
        offered := Function.update s.offered q none
        accepted := s.accepted ++ [(some q, sample)] } where
  queued := by
    simp only [List.map_append, conserved.queued, List.map_cons, List.map_nil, List.append_assoc]
  placed := conserved.placed
  counted other := by
    rw [List.countP_append, conserved.counted other]
    by_cases here : other = q
    · subst here
      simp [accepted]
    · simp [here, Ne.symm here]
  nulls := conserved.nulls

theorem counted_update {s : Line} {q : Nat} {producer : SampleProduction.Producer} (conserved : Conserved d s)
    (accepted : producer.accepted = (s.producer q).accepted) (other : Nat) :
    s.accepted.countP (·.1 = some other) = (Function.update s.producer q producer other).accepted := by
  rw [conserved.counted other]
  by_cases here : other = q
  · subst here
    simp [accepted]
  · simp [here]

theorem conserved_step (s : Line) (action : Action) (t : Line) (conserved : Conserved d s)
    (h : step d s action = some t) : Conserved d t := by
  cases step_moves h with
  | produce q statement producer accepted =>
    exact ⟨conserved.queued, conserved.placed, counted_update conserved accepted, conserved.nulls⟩
  | refused _ q producer accepted =>
    exact ⟨conserved.queued, conserved.placed, counted_update conserved accepted, conserved.nulls⟩
  | enter q sample => exact ⟨conserved.queued, conserved.placed, conserved.counted, conserved.nulls⟩
  | enqueue q sample producer accepted => exact conserved.enqueue accepted
  | pipeline action next within moves => exact conserved.record within moves

/-- Nothing is lost, made up or stored twice on the way from the producers to the store: in every run the accepted
    samples are those that left the queue, in this order, and those still in it; what left it is stored, held by a
    worker, dropped at the full store or taken by another client. A producer has counted as accepted just what the
    queue has from it, and a stored `null` costs an interrupt. -/
theorem samples_conserved (d : Deployment) (actions : List Action) (s : Line)
    (run : exec (step d) .initial actions = some s) :
    Conserved d s ∧ ∀ sample,
      (storedSamples s.pipeline.store).count sample ≤ (s.accepted.map Prod.snd).count sample := by
  have conserved : Conserved d s := exec_invariant conserved_step .initial run
  refine ⟨conserved, fun sample => ?_⟩
  have gone : (storedSamples s.pipeline.store).count sample ≤ s.removed.count sample := by
    rw [← Multiset.coe_count sample s.removed, conserved.placed]
    simp only [Multiset.count_add]
    omega
  rw [conserved.queued, List.count_append]
  omega

def storesFirst : List Action :=
  [.produce 0 .submit, .produce 1 .submit, .produce 0 .start, .produce 1 .start, .produce 1 .test,
    .enter 1 ⟨6, 3, 4⟩, .enter 0 ⟨5, 1, 2⟩, .enqueue 0, .enqueue 1] ++
  [.submit 0, .start 0, .take 0, .build 0, .checkSize 0, .add 0].map .pipeline

theorem stored_sample_conserved : ∃ s, exec (step ⟨[.periodic, .burst], 1⟩) .initial storesFirst = some s ∧
    s.pipeline.store = [⟨10, 1, some ⟨5, 1, 2⟩⟩] ∧ s.pipeline.queue = [⟨6, 3, 4⟩] ∧
    Conserved ⟨[.periodic, .burst], 1⟩ s := by
  have ran : (exec (step ⟨[.periodic, .burst], 1⟩) .initial storesFirst).map
      (fun s => (s.pipeline.store, s.pipeline.queue)) = some ([⟨10, 1, some ⟨5, 1, 2⟩⟩], [⟨6, 3, 4⟩]) := by
    decide +kernel
  obtain ⟨s, run, same⟩ := Option.map_eq_some_iff.mp ran
  obtain ⟨store, queue⟩ := Prod.mk.inj same
  exact ⟨s, run, store, queue, (samples_conserved _ _ s run).1⟩

end Line

end Pipeline
