import Demonstrator.Java.Pipeline.EndToEnd

namespace Pipeline.Line

open Collections Transition

def arrived (s : Line) : List Sample :=
  s.pipeline.store.filterMap Result.sample ++ s.dropped ++ (s.pipeline.processor 0).worker.sample.join.toList

structure InOrder (s : Line) : Prop where
  arrived : s.arrived.Sublist s.removed
  full : s.dropped ≠ [] → ¬ s.pipeline.store.length < maxStoreSize
  checked : ∀ result, (s.pipeline.processor 0).worker = .checked result → s.dropped = []

theorem InOrder.initial : InOrder .initial where
  arrived := by simp [Line.arrived, Line.initial, System.initial, Processor.initial, Worker.sample]
  full nonempty := absurd rfl nonempty
  checked result checked := by simp [Line.initial, System.initial, Processor.initial] at checked

variable {s : Line} {action : Pipeline.Action} {next : System}

theorem InOrder.keeps {t : Line} (ordered : InOrder s) (store : t.pipeline.store = s.pipeline.store)
    (dropped : t.dropped = s.dropped)
    (held : (t.pipeline.processor 0).worker.sample.join = (s.pipeline.processor 0).worker.sample.join)
    (checked : ∀ result, (t.pipeline.processor 0).worker = .checked result →
      (s.pipeline.processor 0).worker = .checked result ∨ s.pipeline.store.length < maxStoreSize)
    (removed : s.removed.Sublist t.removed) : InOrder t where
  arrived := by
    unfold Line.arrived
    rw [store, dropped, held]
    exact ordered.arrived.trans removed
  full := by
    rw [store, dropped]
    exact ordered.full
  checked result here := by
    rw [dropped]
    rcases checked result here with already | room
    · exact ordered.checked result already
    · by_contra nonempty
      exact ordered.full nonempty room

theorem only_processor {p : Nat} (within : ∀ p, action.processor = some p → p < 1)
    (here : action.processor = some p) : p = 0 := Nat.lt_one_iff.mp (within p here)

theorem InOrder.record (ordered : InOrder s) (within : ∀ p, action.processor = some p → p < 1)
    (moves : Pipeline.Moves s.pipeline action next) : InOrder (s.record action next) := by
  cases moves with
  | take p sample queue taking undisturbed first =>
    cases only_processor within rfl
    have taken : s.pipeline.taken (.take 0) = [sample] := by simp [System.taken, undisturbed, first]
    have before := ordered.arrived
    refine ⟨?_, ?_, ?_⟩
    · simp only [Line.arrived, taking, Worker.sample, Option.join_none, Option.toList_none, List.append_nil] at before
      simp only [Line.arrived, Line.record, taken, System.clientTakes, System.drops, System.update,
        Function.update_self, Worker.sample, Option.join_some, Option.toList_some, List.append_nil]
      exact before.append (List.Sublist.refl _)
    · simpa [Line.record, System.drops, System.update] using ordered.full
    · simp [Line.record, System.update]
  | full p result built full =>
    cases only_processor within rfl
    have dropped : s.pipeline.drops (.checkSize 0) = result.sample.toList := by simp [System.drops, built, full]
    refine ⟨?_, ?_, ?_⟩
    · simpa [Line.arrived, Line.record, dropped, System.taken, System.clientTakes, System.update, built,
        Worker.sample] using ordered.arrived
    · intro _
      exact full
    · simp [Line.record, System.update]
  | add p result checked =>
    cases only_processor within rfl
    have nothing := ordered.checked result checked
    refine ⟨?_, ?_, ?_⟩
    · simpa [Line.arrived, Line.record, nothing, System.drops, System.taken, System.clientTakes, System.update,
        checked, Worker.sample, filterMap_sample] using ordered.arrived
    · simp [Line.record, nothing, System.drops]
    · simp [Line.record, System.update]
  | interrupted p taking interrupted =>
    cases only_processor within rfl
    refine ordered.keeps rfl (List.append_nil _) ?_ ?_ (List.sublist_append_left _ _)
    · simp [Line.record, System.update, Worker.sample, taking]
    · simp [Line.record, System.update]
  | checkSize p result built room =>
    cases only_processor within rfl
    have kept : s.pipeline.drops (.checkSize 0) = [] := by simp [System.drops, built, room]
    refine ordered.keeps rfl (by simp [Line.record, kept]) ?_ ?_ (List.sublist_append_left _ _)
    · simp [Line.record, System.update, Worker.sample, built]
    · intro _ _
      exact .inr room
  | build p sample taken =>
    cases only_processor within rfl
    refine ordered.keeps rfl (List.append_nil _) ?_ ?_ (List.sublist_append_left _ _)
    · simp [Line.record, System.update, Worker.sample, taken]
    · simp [Line.record, System.update]
  | start p free =>
    cases only_processor within rfl
    refine ordered.keeps rfl (List.append_nil _) ?_ ?_ (List.sublist_append_left _ _)
    · simp [Line.record, System.update, Worker.sample, free]
    · simp [Line.record, System.update]
  | finish p stored =>
    cases only_processor within rfl
    refine ordered.keeps rfl (List.append_nil _) ?_ ?_ (List.sublist_append_left _ _)
    · simp [Line.record, System.update, Worker.sample, stored]
    · simp [Line.record, System.update]
  | clientPut | clientTake =>
    exact ordered.keeps rfl (List.append_nil _) rfl (fun _ => .inl) (List.sublist_append_left _ _)
  | submit p | getReturns p | timeout p | cancelSubmitted p | cancelRunning p | cancelDone p =>
    cases only_processor within rfl
    refine ordered.keeps rfl (List.append_nil _) ?_ ?_ (List.sublist_append_left _ _)
    · simp [Line.record, System.update]
    · intro result here
      left
      simpa [Line.record, System.update] using here

theorem inOrder_step (kinds : List SampleProduction.Kind) (s : Line) (action : Action) (t : Line)
    (ordered : InOrder s) (h : step ⟨kinds, 1⟩ s action = some t) : InOrder t := by
  cases step_moves h with
  | produce | refused | enter | enqueue => exact ordered.keeps rfl rfl rfl (fun _ => .inl) (List.Sublist.refl _)
  | pipeline action next within moves => exact ordered.record within moves

theorem arrived_coe (s : Line) : (s.arrived : Multiset Sample) =
    storedSamples s.pipeline.store + heldSamples 1 s.pipeline.processor + (s.dropped : Multiset Sample) := by
  have held : heldSamples 1 s.pipeline.processor = ↑(s.pipeline.processor 0).worker.sample.join.toList := by
    simp [heldSamples, tally, Worker.held]
  rw [held, storedSamples, arrived, ← Multiset.coe_add, ← Multiset.coe_add]
  ac_rfl

/-- With one processor the samples reach the store in the order in which they entered the queue: the ones stored,
    then the ones dropped at the full store, then the one in the hands of the processor, then the queue, when no
    other client takes from it. -/
theorem single_processor_in_order (kinds : List SampleProduction.Kind) (actions : List Action) (s : Line)
    (run : exec (step ⟨kinds, 1⟩) .initial actions = some s) :
    s.arrived.Sublist (s.accepted.map Prod.snd) ∧
      (s.handedOver = [] → s.accepted.map Prod.snd = s.arrived ++ s.pipeline.queue) := by
  have ordered : InOrder s := exec_invariant (inOrder_step kinds) .initial run
  have conserved : Conserved ⟨kinds, 1⟩ s := exec_invariant conserved_step .initial run
  rw [conserved.queued]
  constructor
  · exact ordered.arrived.trans (List.sublist_append_left _ _)
  · intro alone
    have same : (s.removed : Multiset Sample) = s.arrived := by
      rw [arrived_coe, conserved.placed, alone, Multiset.coe_nil, add_zero]
    have all : s.arrived = s.removed := ordered.arrived.eq_of_length (congrArg Multiset.card same).symm
    rw [all]

theorem first_sample_in_order : ∃ s, exec (step ⟨[.periodic, .burst], 1⟩) .initial storesFirst = some s ∧
    s.arrived = [⟨5, 1, 2⟩] ∧ s.accepted.map Prod.snd = s.arrived ++ s.pipeline.queue := by
  have ran : (exec (step ⟨[.periodic, .burst], 1⟩) .initial storesFirst).map
      (fun s => (s.arrived, s.handedOver)) = some ([⟨5, 1, 2⟩], []) := by decide +kernel
  obtain ⟨s, run, same⟩ := Option.map_eq_some_iff.mp ran
  obtain ⟨arrived, alone⟩ := Prod.mk.inj same
  exact ⟨s, run, arrived, (single_processor_in_order _ _ s run).2 alone⟩

end Pipeline.Line
