import Mathlib.Data.List.Basic

namespace Celix.Processor

structure Rates where
  SINGLE_SAMPLES_PER_SEC : Nat
  BURST_SAMPLES_PER_SEC : Nat

def rates : Rates := ⟨0, 250⟩

structure ThreadData (QueueService : Type) where
  thread : Nat
  running : Bool
  service : Option QueueService
  single_throughput : Nat
  burst_throughput : Nat
  deriving DecidableEq, Repr

inductive Routine where
  | receiveSamples
  | receiveBursts
  deriving DecidableEq, Repr

def Rates.samplesPerSec (rates : Rates) : Routine → Nat
  | .receiveSamples => rates.SINGLE_SAMPLES_PER_SEC
  | .receiveBursts => rates.BURST_SAMPLES_PER_SEC

structure Frame (QueueService : Type) where
  routine : Routine
  queueService : Option QueueService
  count : Nat
  success : Bool
  deriving DecidableEq, Repr

structure Batch (QueueService : Type) where
  frame : Frame QueueService
  received : Nat
  left : Nat
  deriving DecidableEq, Repr

inductive Position (QueueService DataStoreService : Type) where
  | entry
  | test (success : Bool)
  | start (routine : Routine)
  | loop (frame : Frame QueueService)
  | calling (frame : Frame QueueService)
  | inCall (frame : Frame QueueService)
  | processing (batch : Batch QueueService)
  | sending (batch : Batch QueueService) (index : Nat)
  | storing (batch : Batch QueueService) (index : Nat) (dsService : DataStoreService)
  | inStore (batch : Batch QueueService) (index : Nat) (dsService : DataStoreService)
  | statistic (frame : Frame QueueService)
  | finished
  deriving DecidableEq, Repr

/-- What a step finds: whether the second is over, what `take` or `takeAll` gives (`none` for an error),
    whether `calloc` has memory. -/
structure Choice where
  elapsed : Bool
  taken : Option Nat
  memory : Bool

inductive LockUse where
  | keep
  | acquireRead
  | releaseRead

structure Effect (QueueService DataStoreService : Type) where
  position : Position QueueService DataStoreService
  data : ThreadData QueueService
  lock : LockUse

section Program

variable {QueueService DataStoreService : Type}

def Rates.iteration (rates : Rates) : Position QueueService DataStoreService :=
  if 0 < rates.BURST_SAMPLES_PER_SEC then .start .receiveBursts
  else if 0 < rates.SINGLE_SAMPLES_PER_SEC then .start .receiveSamples
  else .test true

def Rates.afterwards (rates : Rates) (frame : Frame QueueService) : Position QueueService DataStoreService :=
  match frame.routine with
  | .receiveBursts => if 0 < rates.SINGLE_SAMPLES_PER_SEC then .start .receiveSamples else .test frame.success
  | .receiveSamples => .test frame.success

def ThreadData.update (data : ThreadData QueueService) (frame : Frame QueueService) : ThreadData QueueService :=
  match frame.routine with
  | .receiveSamples => { data with single_throughput := frame.count }
  | .receiveBursts => { data with burst_throughput := frame.count }

/-- The samples behind a call: `take` gives at most one and sets the status of the routine, `takeAll` gives a
    sequence and leaves the status. -/
def Frame.returned (frame : Frame QueueService) (taken : Option Nat) : Position QueueService DataStoreService :=
  match frame.routine, taken with
  | .receiveSamples, none => .loop { frame with success := false }
  | .receiveSamples, some n => .processing ⟨{ frame with success := true }, min n 1, min n 1⟩
  | .receiveBursts, none => .loop frame
  | .receiveBursts, some n => .processing ⟨frame, n, n⟩

def Frame.next (rates : Rates) (frame : Frame QueueService) (elapsed : Bool) :
    Position QueueService DataStoreService :=
  if elapsed then .statistic frame
  else if frame.count < rates.samplesPerSec frame.routine then
    match frame.queueService with
    | some _ => .calling frame
    | none => .loop { frame with success := false }
  else .loop frame

def Batch.next (batch : Batch QueueService) (data : ThreadData QueueService) (memory : Bool) :
    Option (Effect QueueService DataStoreService) :=
  if batch.left = 0 then
    some ⟨.loop { batch.frame with count := batch.frame.count + batch.received }, data, .keep⟩
  else
    match memory, batch.frame.routine with
    | true, _ => some ⟨.sending batch 0, data, .acquireRead⟩
    | false, .receiveBursts => some ⟨.processing { batch with left := batch.left - 1 }, data, .keep⟩
    -- the single result is used untested
    | false, .receiveSamples => none

def Position.move (rates : Rates) (data : ThreadData QueueService) (stores : List DataStoreService)
    (choice : Choice) : Position QueueService DataStoreService → Option (Effect QueueService DataStoreService)
  | .entry => some ⟨.test true, { data with running := true }, .keep⟩
  | .test success => some ⟨if data.running ∧ success then rates.iteration else .finished, data, .keep⟩
  | .start routine => some ⟨.loop ⟨routine, data.service, 0, true⟩, data, .keep⟩
  | .loop frame => some ⟨frame.next rates choice.elapsed, data, .keep⟩
  | .calling frame => some ⟨.inCall frame, data, .keep⟩
  | .inCall frame => some ⟨frame.returned choice.taken, data, .keep⟩
  | .processing batch => batch.next data choice.memory
  | .sending batch index =>
    match stores[index]? with
    | some dsService => some ⟨.storing batch index dsService, data, .keep⟩
    | none => some ⟨.processing { batch with left := batch.left - 1 }, data, .releaseRead⟩
  | .storing batch index dsService => some ⟨.inStore batch index dsService, data, .keep⟩
  | .inStore batch index _ => some ⟨.sending batch (index + 1), data, .keep⟩
  | .statistic frame => some ⟨rates.afterwards frame, data.update frame, .keep⟩
  | .finished => none

def Position.frame : Position QueueService DataStoreService → Option (Frame QueueService)
  | .loop frame | .calling frame | .inCall frame | .statistic frame => some frame
  | .processing batch | .sending batch _ | .storing batch _ _ | .inStore batch _ _ => some batch.frame
  | .entry | .test _ | .start _ | .finished => none

def Position.queueService (position : Position QueueService DataStoreService) : Option QueueService :=
  position.frame.bind Frame.queueService

def Position.InSendResult : Position QueueService DataStoreService → Prop
  | .sending _ _ | .storing _ _ _ | .inStore _ _ _ => True
  | _ => False

def Position.dsService : Position QueueService DataStoreService → Option DataStoreService
  | .storing _ _ dsService | .inStore _ _ dsService => some dsService
  | _ => none

theorem Position.inSendResult_of_dsService {position : Position QueueService DataStoreService}
    {dsService : DataStoreService} (refers : position.dsService = some dsService) : position.InSendResult := by
  cases position with
  | storing batch index store => exact True.intro
  | inStore batch index store => exact True.intro
  | _ => cases refers

/-- What a step can do: where the references of the thread come from, and that it is in
    `processor_sendResult` with the lock only. -/
structure Position.Follows (data : ThreadData QueueService) (stores : List DataStoreService)
    (position : Position QueueService DataStoreService) (effect : Effect QueueService DataStoreService) : Prop where
  thread : effect.data.thread = data.thread
  service : effect.data.service = data.service
  queue : ∀ queue, effect.position.queueService = some queue →
    data.service = some queue ∨ position.queueService = some queue
  store : ∀ store, effect.position.dsService = some store → store ∈ stores ∨ position.dsService = some store
  keep : effect.lock = .keep → effect.position.InSendResult → position.InSendResult
  release : effect.lock = .releaseRead → ¬ effect.position.InSendResult

theorem Position.follows_outside {data data' : ThreadData QueueService} {stores : List DataStoreService}
    {position next : Position QueueService DataStoreService} (thread : data'.thread = data.thread)
    (service : data'.service = data.service)
    (queue : ∀ queue, next.queueService = some queue →
      data.service = some queue ∨ position.queueService = some queue)
    (outside : ¬ next.InSendResult) : Position.Follows data stores position ⟨next, data', .keep⟩ where
  thread := thread
  service := service
  queue := queue
  store := by
    intro store refers
    exact absurd (Position.inSendResult_of_dsService refers) outside
  keep := by
    intro _ inside
    exact absurd inside outside
  release := by
    intro other
    cases other

def Position.Within (frame : Frame QueueService) (position : Position QueueService DataStoreService) : Prop :=
  ¬ position.InSendResult ∧ ∀ queue, position.queueService = some queue → frame.queueService = some queue

theorem Rates.iteration_frame (rates : Rates) :
    (rates.iteration : Position QueueService DataStoreService).frame = none := by
  rw [iteration]
  split_ifs
  all_goals rfl

theorem Rates.afterwards_frame (rates : Rates) (frame : Frame QueueService) :
    (rates.afterwards frame : Position QueueService DataStoreService).frame = none := by
  rw [afterwards]
  split
  · split_ifs
    all_goals rfl
  · rfl

theorem ThreadData.update_keeps (data : ThreadData QueueService) (frame : Frame QueueService) :
    (data.update frame).thread = data.thread ∧ (data.update frame).service = data.service := by
  rw [update]
  split
  all_goals exact ⟨rfl, rfl⟩

theorem Frame.returned_within (frame : Frame QueueService) (taken : Option Nat) :
    Position.Within frame (frame.returned taken : Position QueueService DataStoreService) := by
  unfold returned
  split
  all_goals simp [Position.Within, Position.InSendResult, Position.queueService, Position.frame]

theorem Frame.next_within (rates : Rates) (frame : Frame QueueService) (elapsed : Bool) :
    Position.Within frame (frame.next rates elapsed : Position QueueService DataStoreService) := by
  rw [next]
  split_ifs
  · simp [Position.Within, Position.InSendResult, Position.queueService, Position.frame]
  · split
    all_goals simp [Position.Within, Position.InSendResult, Position.queueService, Position.frame]
  · simp [Position.Within, Position.InSendResult, Position.queueService, Position.frame]

theorem Position.inSendResult_frame {position : Position QueueService DataStoreService}
    (inside : position.InSendResult) : position.frame ≠ none := by
  cases position with
  | sending batch index => exact Option.some_ne_none _
  | storing batch index store => exact Option.some_ne_none _
  | inStore batch index store => exact Option.some_ne_none _
  | _ => cases inside

theorem Position.follows_idle {data data' : ThreadData QueueService} {stores : List DataStoreService}
    {position next : Position QueueService DataStoreService} (thread : data'.thread = data.thread)
    (service : data'.service = data.service) (idle : next.frame = none) :
    Position.Follows data stores position ⟨next, data', .keep⟩ := by
  apply Position.follows_outside thread service
  · intro queue refers
    rw [queueService, idle] at refers
    cases refers
  · intro inside
    exact Position.inSendResult_frame inside idle

theorem Position.follows_within {data : ThreadData QueueService} {stores : List DataStoreService}
    {frame : Frame QueueService} {position next : Position QueueService DataStoreService}
    (origin : position.frame = some frame) (within : Position.Within frame next) :
    Position.Follows data stores position ⟨next, data, .keep⟩ := by
  apply Position.follows_outside rfl rfl _ within.1
  intro queue refers
  right
  rw [queueService, origin]
  exact within.2 queue refers

theorem Batch.next_follows {batch : Batch QueueService} {data : ThreadData QueueService}
    {stores : List DataStoreService} {memory : Bool} {effect : Effect QueueService DataStoreService}
    (taken : batch.next data memory = some effect) :
    Position.Follows data stores (.processing batch) effect := by
  unfold next at taken
  split at taken
  · cases taken
    apply Position.follows_within rfl
    simp [Position.Within, Position.InSendResult, Position.queueService, Position.frame]
  · split at taken
    · cases taken
      exact ⟨rfl, rfl, fun _ refers => .inr refers, fun _ refers => (by cases refers), fun use => (by cases use),
        fun use => (by cases use)⟩
    · cases taken
      apply Position.follows_within rfl
      simp [Position.Within, Position.InSendResult, Position.queueService, Position.frame]
    · cases taken

theorem Position.move_follows {rates : Rates} {data : ThreadData QueueService} {stores : List DataStoreService}
    {choice : Choice} {position : Position QueueService DataStoreService}
    {effect : Effect QueueService DataStoreService}
    (taken : position.move rates data stores choice = some effect) : position.Follows data stores effect := by
  cases position with
  | entry =>
    cases taken
    exact Position.follows_idle rfl rfl rfl
  | test success =>
    cases taken
    apply Position.follows_idle rfl rfl
    split_ifs
    · exact rates.iteration_frame
    · rfl
  | start routine =>
    cases taken
    exact Position.follows_outside rfl rfl (fun _ refers => .inl refers) id
  | loop frame =>
    cases taken
    exact Position.follows_within rfl (frame.next_within rates choice.elapsed)
  | calling frame =>
    cases taken
    exact Position.follows_within rfl ⟨id, fun _ refers => refers⟩
  | inCall frame =>
    cases taken
    exact Position.follows_within rfl (frame.returned_within choice.taken)
  | processing batch => exact Batch.next_follows taken
  | sending batch index =>
    simp only [move] at taken
    split at taken
    · rename_i dsService found
      cases taken
      refine ⟨rfl, rfl, fun _ refers => .inr refers, ?_, fun _ _ => True.intro, fun use => (by cases use)⟩
      intro store refers
      cases refers
      exact .inl (List.mem_of_getElem? found)
    · cases taken
      exact ⟨rfl, rfl, fun _ refers => .inr refers, fun _ refers => (by cases refers), fun use => (by cases use),
        fun _ => id⟩
  | storing batch index dsService =>
    cases taken
    exact ⟨rfl, rfl, fun _ refers => .inr refers, fun _ refers => .inr refers, fun _ _ => True.intro,
      fun use => (by cases use)⟩
  | inStore batch index dsService =>
    cases taken
    exact ⟨rfl, rfl, fun _ refers => .inr refers, fun _ refers => (by cases refers), fun _ _ => True.intro,
      fun use => (by cases use)⟩
  | statistic frame =>
    cases taken
    obtain ⟨thread, service⟩ := data.update_keeps frame
    exact Position.follows_idle thread service (rates.afterwards_frame frame)
  | finished => cases taken

end Program

end Celix.Processor
