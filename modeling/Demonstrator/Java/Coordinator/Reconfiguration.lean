import Demonstrator.Java.Coordinator.ScaleRequests
import Demonstrator.Transition.Runs

namespace Coordinator

open Transition

/-- Kubernetes during the call: what the cluster holds, and the order in which the controllers asked
    for arrive. -/
structure Kubernetes where
  cluster : Cluster
  arrivals : String → List String → List String

structure Outcome where
  requests : List ScaleRequest
  isNumberSet : Bool
  deriving DecidableEq, Repr

/-- What is left of `setReplicaCount` once `m_config` has been read: the names and the namespace come from
    the local `config`, the maximum from the second read. -/
def send (k8s : Kubernetes) (type : ServiceType) (config : KubernetesCoordinatorConfig)
    (newNumber : Int32) : List ScaleRequest :=
  let names := (config.controllerNames type).names
  scaleRequests config.k8sNamespace names newNumber (k8s.arrivals config.k8sNamespace names) k8s.cluster

def clampTo (type : ServiceType) (number : Int32) (config : KubernetesCoordinatorConfig) : Int32 :=
  min number (config.getMaxReplicaCount type)

inductive Call where
  | entered
  | configRead (config : KubernetesCoordinatorConfig)
  | clamped (config : KubernetesCoordinatorConfig) (newNumber : Int32) (isNumberSet : Bool)
  | returned (outcome : Outcome)

/-- The service during one call: `m_config`, the configuration that `updated` is still to write, and
    where the call is. -/
structure ServiceState where
  mConfig : KubernetesCoordinatorConfig
  update : Option KubernetesCoordinatorConfig
  call : Call

inductive ServiceAction where
  | updated
  | proceed
  deriving DecidableEq, Repr

def ServiceState.step (k8s : Kubernetes) (type : ServiceType) (number : Int32) (s : ServiceState) :
    ServiceAction → Option ServiceState
  | .updated => s.update.map fun config => { s with mConfig := config, update := none }
  | .proceed =>
    match s.call with
    | .entered =>
      if number < 0 then some { s with call := .returned ⟨[], false⟩ }
      else some { s with call := .configRead s.mConfig }
    | .configRead config =>
      let newNumber := clampTo type number s.mConfig
      some { s with call := .clamped config newNumber (newNumber == number) }
    | .clamped config newNumber isNumberSet =>
      some { s with call := .returned ⟨send k8s type config newNumber, isNumberSet⟩ }
    | .returned _ => none

section Call

variable (k8s : Kubernetes) (type : ServiceType) (number : Int32)

def mixed (first second : KubernetesCoordinatorConfig) : Outcome :=
  let newNumber := clampTo type number second
  ⟨send k8s type first newNumber, newNumber == number⟩

def alone (config : KubernetesCoordinatorConfig) : Outcome :=
  if number < 0 then ⟨[], false⟩ else mixed k8s type number config config

theorem alone_setReplicaCount (k : KubernetesCoordinator) :
    k.setReplicaCount type number =
      let outcome := alone ⟨k.cluster, fun _ rcNames => rcNames⟩ type number k.config
      ({ k with cluster := outcome.requests.foldl Cluster.accept k.cluster }, outcome.isNumberSet) := by
  unfold KubernetesCoordinator.setReplicaCount alone
  split
  · rfl
  · simp only [mixed, send, clampTo, scaleControllers_requests]

def ServiceState.start (old new : KubernetesCoordinatorConfig) : ServiceState := ⟨old, some new, .entered⟩

def SplitReads (actions : List ServiceAction) : Prop := [.proceed, .updated] <+: actions

def Atomic (old new : KubernetesCoordinatorConfig) (outcome : Outcome) : Prop :=
  outcome = alone k8s type number old ∨ outcome = alone k8s type number new

def MaximaAgree (old new : KubernetesCoordinatorConfig) : Prop :=
  let names := (old.controllerNames type).names
  (number ≤ new.getMaxReplicaCount type ↔ number ≤ old.getMaxReplicaCount type) ∧
    ∀ rcName ∈ k8s.cluster.answered old.k8sNamespace (k8s.arrivals old.k8sNamespace names),
      getNewReplicaCount names rcName (clampTo type number new) =
        getNewReplicaCount names rcName (clampTo type number old)

def ControllersAgree (old new : KubernetesCoordinatorConfig) : Prop :=
  let outdated (config : KubernetesCoordinatorConfig) :=
    let names := (config.controllerNames type).names
    k8s.cluster.outdated config.k8sNamespace names (clampTo type number new)
      (k8s.arrivals config.k8sNamespace names)
  outdated old = outdated new ∧ (outdated old = [] ∨ old.k8sNamespace = new.k8sNamespace)

def Reads (first second : KubernetesCoordinatorConfig) (s : ServiceState) : Prop :=
  match s.call with
  | .entered => s.mConfig = first ∧ first = second ∧ s.update = none
  | .configRead config => ¬ number < 0 ∧ config = first ∧ s.mConfig = second ∧ s.update = none
  | .clamped config newNumber isNumberSet =>
    ¬ number < 0 ∧ config = first ∧ newNumber = clampTo type number second ∧ isNumberSet = (newNumber == number)
  | .returned outcome => outcome = if number < 0 then ⟨[], false⟩ else mixed k8s type number first second

variable {k8s type number}

theorem reads_step {first second : KubernetesCoordinatorConfig} (s : ServiceState) (action : ServiceAction)
    (t : ServiceState) (reads : Reads k8s type number first second s)
    (h : s.step k8s type number action = some t) : Reads k8s type number first second t := by
  obtain ⟨mConfig, update, call⟩ := s
  cases action with
  | updated =>
    obtain ⟨config, pending, rfl⟩ := Option.map_eq_some_iff.mp h
    cases call with
    | entered => cases pending.symm.trans reads.2.2
    | configRead _ => cases pending.symm.trans reads.2.2.2
    | clamped _ _ _ | returned _ => exact reads
  | proceed =>
    cases call with
    | entered =>
      obtain ⟨rfl, rfl, quiet⟩ := reads
      simp only [ServiceState.step] at h
      split at h <;> cases h
      · rename_i negative
        simp [Reads, negative]
      · rename_i accepted
        exact ⟨accepted, rfl, rfl, quiet⟩
    | configRead config =>
      obtain ⟨accepted, rfl, rfl, _⟩ := reads
      cases h
      exact ⟨accepted, rfl, rfl, rfl⟩
    | clamped config newNumber isNumberSet =>
      obtain ⟨accepted, rfl, rfl, rfl⟩ := reads
      cases h
      simp [Reads, accepted, mixed]
    | returned outcome => cases h

theorem reads_returned {first second : KubernetesCoordinatorConfig} {s final : ServiceState}
    {actions : List ServiceAction} {outcome : Outcome} (reads : Reads k8s type number first second s)
    (run : exec (ServiceState.step k8s type number) s actions = some final)
    (returned : final.call = .returned outcome) :
    outcome = if number < 0 then ⟨[], false⟩ else mixed k8s type number first second := by
  have last := exec_invariant reads_step reads run
  simpa only [Reads, returned] using last

theorem returned_outcome {old new : KubernetesCoordinatorConfig} {actions : List ServiceAction}
    {final : ServiceState} {outcome : Outcome}
    (run : exec (ServiceState.step k8s type number) (.start old new) actions = some final)
    (returned : final.call = .returned outcome) :
    (SplitReads actions → ¬ number < 0 → outcome = mixed k8s type number old new) ∧
      (number < 0 ∨ ¬ SplitReads actions → Atomic k8s type number old new outcome) := by
  cases actions with
  | nil =>
    cases run
    cases returned
  | cons first rest =>
    obtain ⟨entered, begins, later⟩ := exec_cons_some.mp run
    cases first with
    | updated =>
      cases begins
      have reads : Reads k8s type number new new ⟨new, none, .entered⟩ := ⟨rfl, rfl, rfl⟩
      have result := reads_returned reads later returned
      refine ⟨fun split => ?_, fun _ => .inr result⟩
      simp [SplitReads, List.prefix_cons_iff] at split
    | proceed =>
      by_cases negative : number < 0
      · simp only [ServiceState.step, ServiceState.start, negative, if_true, Option.some.injEq] at begins
        subst begins
        have reads : Reads k8s type number old old ⟨old, some new, .returned ⟨[], false⟩⟩ := by
          simp [Reads, negative]
        exact ⟨fun _ accepted => absurd negative accepted, fun _ => .inl (reads_returned reads later returned)⟩
      · simp only [ServiceState.step, ServiceState.start, negative, if_false, Option.some.injEq] at begins
        subst begins
        cases rest with
        | nil =>
          cases later
          cases returned
        | cons second rest =>
          obtain ⟨read, continues, last⟩ := exec_cons_some.mp later
          cases second with
          | updated =>
            cases continues
            have reads : Reads k8s type number old new ⟨new, none, .configRead old⟩ := ⟨negative, rfl, rfl, rfl⟩
            have result := reads_returned reads last returned
            rw [if_neg negative] at result
            refine ⟨fun _ _ => result, fun whole => ?_⟩
            have split : SplitReads (.proceed :: .updated :: rest) := ⟨rest, rfl⟩
            exact absurd split (whole.resolve_left negative)
          | proceed =>
            cases continues
            have reads : Reads k8s type number old old
                ⟨old, some new, .clamped old (clampTo type number old) (clampTo type number old == number)⟩ :=
              ⟨negative, rfl, rfl, rfl⟩
            have result := reads_returned reads last returned
            refine ⟨fun split => ?_, fun _ => .inl result⟩
            simp [SplitReads, List.prefix_cons_iff] at split

theorem clampTo_eq_iff (config : KubernetesCoordinatorConfig) :
    clampTo type number config = number ↔ number ≤ config.getMaxReplicaCount type :=
  Arithmetic.min_eq_left_iff_le number _

theorem mixed_eq_old_iff (old new : KubernetesCoordinatorConfig) :
    mixed k8s type number old new = mixed k8s type number old old ↔ MaximaAgree k8s type number old new := by
  simp only [mixed, Outcome.mk.injEq, send, scaleRequests_eq_iff, MaximaAgree, Bool.beq_eq_decide_eq, decide_eq_decide]
  rw [and_comm, clampTo_eq_iff, clampTo_eq_iff]

theorem mixed_eq_new_iff (old new : KubernetesCoordinatorConfig) :
    mixed k8s type number old new = mixed k8s type number new new ↔
      ControllersAgree k8s type number old new := by
  simp only [mixed, Outcome.mk.injEq, and_true, send, scaleRequests_outdated, map_request_eq_iff, ControllersAgree]

/-- A call is atomic just if the update does not fall between its reads, or the mixture makes no
    difference to what the old or the new configuration asks for. -/
theorem reconfiguration_atomic_iff (old new : KubernetesCoordinatorConfig) (actions : List ServiceAction)
    (final : ServiceState) (outcome : Outcome)
    (run : exec (ServiceState.step k8s type number) (.start old new) actions = some final)
    (returned : final.call = .returned outcome) :
    Atomic k8s type number old new outcome ↔
      number < 0 ∨ ¬ SplitReads actions ∨ MaximaAgree k8s type number old new ∨
        ControllersAgree k8s type number old new := by
  obtain ⟨split, whole⟩ := returned_outcome run returned
  by_cases negative : number < 0
  · simp [negative, whole]
  · by_cases between : SplitReads actions
    · have result := split between negative
      simp only [Atomic, alone, negative, if_false, result, mixed_eq_old_iff, mixed_eq_new_iff, between,
        not_true_eq_false, false_or]
    · simp [between, whole]

end Call

def idleControllers : Kubernetes := ⟨⟨fun _ _ => some ⟨0, 0⟩, fun _ _ => true⟩, fun _ rcNames => rcNames⟩

def fourProducers : KubernetesCoordinatorConfig :=
  ⟨⟨8, 4⟩, .single "r", .single "p", "default"⟩

def twoProducers : KubernetesCoordinatorConfig :=
  ⟨⟨8, 2⟩, .single "r", .single "q", "default"⟩

def updatedBetween : List ServiceAction := [.proceed, .updated, .proceed, .proceed]

theorem reconfiguration_atomic_iff_between :
    ∃ final outcome,
      exec (ServiceState.step idleControllers .producer 3) (.start fourProducers twoProducers) updatedBetween =
        some final ∧ final.call = .returned outcome ∧
      (Atomic idleControllers .producer 3 fourProducers twoProducers outcome ↔
        (3 : Int32) < 0 ∨ ¬ SplitReads updatedBetween ∨
          MaximaAgree idleControllers .producer 3 fourProducers twoProducers ∨
          ControllersAgree idleControllers .producer 3 fourProducers twoProducers) :=
  ⟨_, _, rfl, rfl, reconfiguration_atomic_iff fourProducers twoProducers updatedBetween _ _ rfl rfl⟩

theorem reconfiguration_torn :
    ∃ final,
      exec (ServiceState.step idleControllers .producer 3) (.start fourProducers twoProducers) updatedBetween =
        some final ∧ final.call = .returned ⟨[⟨"default", "p", 2⟩], false⟩ ∧
      alone idleControllers .producer 3 fourProducers = ⟨[⟨"default", "p", 3⟩], true⟩ ∧
      alone idleControllers .producer 3 twoProducers = ⟨[⟨"default", "q", 2⟩], false⟩ ∧
      ¬ Atomic idleControllers .producer 3 fourProducers twoProducers ⟨[⟨"default", "p", 2⟩], false⟩ := by
  have old : alone idleControllers .producer 3 fourProducers = ⟨[⟨"default", "p", 3⟩], true⟩ := by decide
  have new : alone idleControllers .producer 3 twoProducers = ⟨[⟨"default", "q", 2⟩], false⟩ := by decide
  refine ⟨_, rfl, by rfl, old, new, ?_⟩
  rw [Atomic, old, new]
  decide

end Coordinator
