import Demonstrator.Celix.SampleQueue.Histories

namespace Celix.SampleQueue

open Transition

variable {Sample : Type}

/-- `sampleQueue_destroy`, its critical section: the list is emptied and destroyed, the pointer set to NULL. -/
def destroy (q : SampleQueue Sample) : Except Fault (SampleQueue Sample) :=
  match arrayListSize q.queue with
  | .error fault => .error fault
  | .ok _ => .ok { q with queue := none }

structure Counters where
  takeCnt : Int
  putCnt : Int
  currentQueueSize : Int
  deriving DecidableEq, Repr

def counters (q : SampleQueue Sample) : Counters := ⟨q.takeCnt, q.putCnt, q.currentQueueSize⟩

/-- The queue and its clients with, once the queue has been removed, the counters and the length of the
    history at that moment. -/
structure Removable (Sample : Type) where
  system : System Sample
  atRemoval : Option (Counters × Nat)

def Removable.initial : Removable Sample := ⟨.initial, none⟩

inductive Section (Sample : Type) where
  | call (action : Action Sample)
  | destroy

/-- The broadcast of `sampleQueue_destroy` makes every waiting call runnable, which a `wake` already is. -/
def Removable.step (s : Removable Sample) : Section Sample → Option (Removable Sample)
  | .call action => (SampleQueue.step s.system action).map fun system => { s with system }
  | .destroy =>
    if s.system.fault.isSome ∨ s.atRemoval.isSome then none
    else
      match destroy s.system.queue with
      | .error fault => some { s with system := { s.system with fault := some fault } }
      | .ok queue =>
        some ⟨{ s.system with queue }, some (counters s.system.queue, s.system.history.length)⟩

def Report.Denied : Report Sample → Prop
  | .put _ _ status | .putAll _ _ status | .take _ _ status | .takeAll _ status => status = .illegalState
  | .waits | .statistics _ => False

structure Survives (s : Removable Sample) : Prop where
  fault : s.system.fault = none
  removal : match s.atRemoval with
    | none => s.system.queue.queue.isSome
    | some (kept, length) =>
      s.system.queue.queue = none ∧ counters s.system.queue = kept ∧
        ∀ entry ∈ s.system.history.drop length, entry.2.Denied

/-- The sections that ask for the size of the list without a test of the pointer: a `take` that decides, and
    the statistics. -/
def Untested (s : System Sample) : Action Sample → Prop
  | .take client _ => s.blocked client = none
  | .wake client _ => ∃ out, s.blocked client = some (.take out)
  | .printStatistics => True
  | .put _ _ _ _ | .putAll _ _ _ _ | .takeAll _ _ _ => False

def SparesRemoved (s : Removable Sample) : Section Sample → Prop
  | .call action => s.atRemoval.isSome → ¬ Untested s.system action
  | .destroy => True

section Removed

variable {s t : System Sample} {action : Action Sample}

theorem takeSection_removed (rc : WaitCode) (out : Option Sample) (q : SampleQueue Sample)
    (gone : q.queue = none) : takeSection rc out q = .error .nullList := by
  cases rc <;> simp [takeSection, takeWaits, gone, arrayListSize]

theorem takeAllSection_removed (rc : WaitCode) (min max : Nat) (q : SampleQueue Sample) (gone : q.queue = none) :
    takeAllSection rc min max q = .returns ⟨q, .illegalState, []⟩ := by
  cases rc <;> simp [takeAllSection, takeAllWaits, gone]

theorem step_untested (gone : s.queue.queue = none) (sound : s.fault = none) (untested : Untested s action)
    (h : step s action = some t) : t.fault = some .nullList := by
  simp only [step, sound, Option.isSome_none, Bool.false_eq_true, if_false] at h
  cases action with
  | put client sample calloc add | putAll client samples calloc add | takeAll client min max => cases untested
  | take client out =>
    have idle : s.blocked client = none := untested
    simp only [idle, Option.isSome_none, Bool.false_eq_true, if_false, takeSection_removed _ _ _ gone] at h
    cases h
    rfl
  | wake client rc =>
    obtain ⟨out, blocked⟩ := untested
    simp only [blocked, takeSection_removed _ _ _ gone] at h
    cases h
    rfl
  | printStatistics =>
    simp only [printStatistics, arrayListSize, gone] at h
    cases h
    rfl

structure Refusal (s : System Sample) (action : Action Sample) (report : Report Sample) (t : System Sample) :
    Prop where
  fault : t.fault = none
  queue : t.queue = s.queue
  history : t.history = s.history ++ [(action, report)]
  denied : report.Denied

theorem step_refusal (gone : s.queue.queue = none) (sound : s.fault = none) (tested : ¬ Untested s action)
    (h : step s action = some t) : ∃ report, Refusal s action report t := by
  simp only [step, sound, Option.isSome_none, Bool.false_eq_true, if_false] at h
  cases action with
  | put client sample calloc add =>
    dsimp only at h
    split at h
    · cases h
    · cases h
      refine ⟨.put sample false .illegalState, sound, ?_, ?_, rfl⟩ <;> simp [put, gone, System.record]
  | putAll client samples calloc add =>
    dsimp only at h
    split at h
    · cases h
    · cases h
      refine ⟨.putAll [] 0 .illegalState, sound, ?_, ?_, rfl⟩ <;> simp [putAll, gone, System.record]
  | take client out =>
    dsimp only at h
    split at h
    · cases h
    · rename_i free
      exact absurd (Option.not_isSome_iff_eq_none.mp free) tested
  | takeAll client min max =>
    dsimp only at h
    split at h
    · cases h
    · rw [takeAllSection_removed _ _ _ _ gone] at h
      cases h
      exact ⟨.takeAll [] .illegalState, sound, rfl, rfl, rfl⟩
  | wake client rc =>
    dsimp only at h
    split at h
    · cases h
    · rename_i out blocked
      exact absurd ⟨out, blocked⟩ tested
    · rw [takeAllSection_removed _ _ _ _ gone] at h
      cases h
      exact ⟨.takeAll [] .illegalState, sound, rfl, rfl, rfl⟩
  | printStatistics => exact absurd True.intro tested

end Removed

theorem survives_call (s : Removable Sample) (action : Action Sample) (system : System Sample)
    (survives : Survives s) (h : step s.system action = some system) :
    Survives { s with system } ↔ SparesRemoved s (.call action) := by
  obtain ⟨before, atRemoval⟩ := s
  obtain ⟨sound, removal⟩ := survives
  cases atRemoval with
  | none =>
    obtain ⟨items, live⟩ := Option.isSome_iff_exists.mp removal
    obtain ⟨report, left, advance⟩ := step_advance live sound h
    have still : system.queue.queue.isSome := by
      rcases advance.queue with ⟨moved, _⟩ | ⟨_, _, _, reset⟩
      · rw [moved.queue]
        rfl
      · rw [reset]
        exact removal
    constructor
    · intro _ removed
      cases removed
    · intro _
      exact ⟨advance.fault, still⟩
  | some kept =>
    obtain ⟨gone, unchanged, denied⟩ := removal
    constructor
    · intro later _ untested
      have faulted := step_untested gone sound untested h
      rw [later.fault] at faulted
      cases faulted
    · intro spares
      obtain ⟨report, refusal⟩ := step_refusal gone sound (spares rfl) h
      refine ⟨refusal.fault, ?_, ?_, ?_⟩
      · exact (congrArg SampleQueue.queue refusal.queue).trans gone
      · exact (congrArg counters refusal.queue).trans unchanged
      · intro entry member
        simp only [refusal.history, List.drop_append] at member
        rcases List.mem_append.mp member with old | new
        · exact denied entry old
        · cases List.mem_singleton.mp (List.mem_of_mem_drop new)
          exact refusal.denied

theorem survives_destroy (s t : Removable Sample) (survives : Survives s) (h : s.step .destroy = some t) :
    Survives t := by
  obtain ⟨before, atRemoval⟩ := s
  obtain ⟨sound, removal⟩ := survives
  simp only [Removable.step] at h
  split at h
  · cases h
  · rename_i first
    have open' : atRemoval = none := by
      cases atRemoval with
      | none => rfl
      | some _ => simp at first
    subst open'
    obtain ⟨items, live⟩ := Option.isSome_iff_exists.mp removal
    have emptied : destroy before.queue = .ok { before.queue with queue := none } := by
      simp only at live
      simp [destroy, arrayListSize, live]
    rw [emptied] at h
    cases h
    exact ⟨sound, rfl, rfl, fun entry member => by simp at member⟩

theorem survives_step (s : Removable Sample) (part : Section Sample) (t : Removable Sample)
    (survives : Survives s) (h : s.step part = some t) : Survives t ↔ SparesRemoved s part := by
  cases part with
  | call action =>
    obtain ⟨system, taken, rfl⟩ := Option.map_eq_some_iff.mp h
    exact survives_call s action system survives taken
  | destroy => exact ⟨fun _ => True.intro, fun _ => survives_destroy s t survives h⟩

theorem spares_disabled (s : Removable Sample) (part : Section Sample) (survives : Survives s)
    (h : s.step part = none) : SparesRemoved s part := by
  cases part with
  | call action =>
    intro _ untested
    have blocked := Option.map_eq_none_iff.mp h
    simp only [step, survives.fault, Option.isSome_none, Bool.false_eq_true, if_false] at blocked
    cases action with
    | put client sample calloc add | putAll client samples calloc add | takeAll client min max => cases untested
    | take client out =>
      have idle : s.system.blocked client = none := untested
      simp [idle] at blocked
    | wake client rc =>
      obtain ⟨out, waiting⟩ := untested
      simp [waiting] at blocked
    | printStatistics =>
      dsimp only at blocked
      split at blocked <;> cases blocked
  | destroy => exact True.intro

/-- The queue survives its removal just if, from then on, no `take` decides and no statistics are printed. -/
theorem removal_survived_iff (parts : List (Section Sample)) :
    Always Removable.step Survives (Removable.initial : Removable Sample) parts ↔
      Meets Removable.step SparesRemoved (Removable.initial : Removable Sample) parts :=
  always_iff_meets survives_step spares_disabled ⟨rfl, rfl⟩ parts

theorem waiting_take_faults :
    ∃ final, exec Removable.step (Removable.initial : Removable Nat)
        [.call (.take 0 none), .destroy, .call (.wake 0 .zero)] = some final ∧
      final.system.fault = some .nullList ∧
      ¬ Always Removable.step Survives (Removable.initial : Removable Nat)
        [.call (.take 0 none), .destroy, .call (.wake 0 .zero)] := by
  refine ⟨_, rfl, rfl, fun always => ?_⟩
  have reached := (((always.2 _ rfl).2 _ rfl).2 _ rfl : Survives _)
  cases reached.fault

end Celix.SampleQueue
