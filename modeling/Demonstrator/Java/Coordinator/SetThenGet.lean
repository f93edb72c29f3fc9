import Demonstrator.Java.Coordinator.Scaling

namespace Coordinator

open Arithmetic

namespace KubernetesCoordinator

def Serves (k : KubernetesCoordinator) (type : ServiceType) : Prop :=
  k.cluster.Serves k.config.k8sNamespace (k.config.controllerNames type).names

def clamped (k : KubernetesCoordinator) (type : ServiceType) (number : Int32) : Int32 :=
  min number (k.config.getMaxReplicaCount type)

theorem clamped_nonneg (k : KubernetesCoordinator) (type : ServiceType) (number : Int32)
    (nonnegative : 0 ≤ number) (maximum : 0 ≤ k.config.getMaxReplicaCount type) :
    0 ≤ k.clamped type number := by
  have low := toInt_nonneg.mp nonnegative
  have top := toInt_nonneg.mp maximum
  rw [toInt_nonneg, clamped, toInt_min]
  omega

theorem set_negative (k : KubernetesCoordinator) (type : ServiceType) (number : Int32) (negative : number < 0) :
    k.setReplicaCount type number = (k, false) := by
  simp [setReplicaCount, negative]

theorem set_nonneg (k : KubernetesCoordinator) (type : ServiceType) (number : Int32) (nonnegative : 0 ≤ number) :
    k.setReplicaCount type number =
      (⟨k.config, scaleControllers k.config.k8sNamespace (k.config.controllerNames type).names
          (k.clamped type number) (k.config.controllerNames type).names k.cluster⟩,
        k.clamped type number == number) := by
  have notNegative : ¬ number < 0 := Int32.not_lt.mpr nonnegative
  simp [setReplicaCount, clamped, notNegative]

theorem getReplicaCount_served (k : KubernetesCoordinator) (type : ServiceType) (serves : k.Serves type) :
    k.getReplicaCount type = .ok (total ((k.config.controllerNames type).names.map
      (k.cluster.spec k.config.k8sNamespace))) :=
  sumReplicas_served k.cluster k.config.k8sNamespace _ serves

theorem set_config (k : KubernetesCoordinator) (type : ServiceType) (number : Int32) :
    (k.setReplicaCount type number).1.config = k.config := by
  unfold setReplicaCount
  split <;> rfl

theorem set_serves (k : KubernetesCoordinator) (type served : ServiceType) (number : Int32)
    (serves : k.Serves served) : (k.setReplicaCount type number).1.Serves served := by
  unfold setReplicaCount
  split
  · exact serves
  · exact scaleControllers_serves _ _ _ _ _ _ _ serves

theorem getReplicaCount_set (k : KubernetesCoordinator) (type : ServiceType) (number : Int32)
    (serves : k.Serves type) (nonnegative : 0 ≤ number) (maximum : 0 ≤ k.config.getMaxReplicaCount type) :
    (k.setReplicaCount type number).1.getReplicaCount type =
      .ok (total ((k.config.controllerNames type).names.map fun name =>
        if k.cluster.Skips k.config.k8sNamespace (k.config.controllerNames type).names
            (k.clamped type number) name
        then k.cluster.spec k.config.k8sNamespace name
        else controllerShare (k.config.controllerNames type).names (k.clamped type number) name)) := by
  rw [getReplicaCount_served _ type (set_serves k type type number serves), set_config,
    set_nonneg k type number nonnegative]
  congr 2
  apply List.map_congr_left
  intro name member
  have after := scaleControllers_spec k.config.k8sNamespace (k.config.controllerNames type)
    (k.clamped type number) (clamped_nonneg k type number nonnegative maximum)
    (k.config.controllerNames type).names (fun _ present => present) k.cluster serves name
  rw [after]
  by_cases skips : k.cluster.Skips k.config.k8sNamespace (k.config.controllerNames type).names
    (k.clamped type number) name
  · simp [skips]
  · simp [skips, member]

/-- The new shares of the scaled controllers and the `spec.replicas` of the skipped ones add up to
    the number of the request. -/
def AddsUp (k : KubernetesCoordinator) (type : ServiceType) (number : Int32) : Prop :=
  total ((k.config.controllerNames type).names.map fun name =>
    if k.cluster.Skips k.config.k8sNamespace (k.config.controllerNames type).names (k.clamped type number) name
    then k.cluster.spec k.config.k8sNamespace name
    else controllerShare (k.config.controllerNames type).names (k.clamped type number) name) =
    k.clamped type number

theorem getReplicaCount_set_clamped_iff (k : KubernetesCoordinator) (type : ServiceType) (number : Int32)
    (serves : k.Serves type) (nonnegative : 0 ≤ number) (maximum : 0 ≤ k.config.getMaxReplicaCount type) :
    (k.setReplicaCount type number).1.getReplicaCount type = .ok (k.clamped type number) ↔
      k.AddsUp type number := by
  rw [getReplicaCount_set k type number serves nonnegative maximum, Except.ok.injEq]
  rfl

/-- The controllers that a request leaves alone already ask, together, for what they should get. -/
def SkippedAgree (k : KubernetesCoordinator) (type : ServiceType) (number : Int32) : Prop :=
  let names := (k.config.controllerNames type).names
  let skipped := names.filter fun name =>
    k.cluster.Skips k.config.k8sNamespace names (k.clamped type number) name
  total (skipped.map (k.cluster.spec k.config.k8sNamespace)) =
    total (skipped.map (controllerShare names (k.clamped type number)))

theorem addsUp_iff_skippedAgree (k : KubernetesCoordinator) (type : ServiceType) (number : Int32)
    (distinct : (k.config.controllerNames type).names.Nodup) (nonnegative : 0 ≤ number)
    (maximum : 0 ≤ k.config.getMaxReplicaCount type) : k.AddsUp type number ↔ k.SkippedAgree type number := by
  have whole : total ((k.config.controllerNames type).names.map
      (controllerShare (k.config.controllerNames type).names (k.clamped type number))) =
      k.clamped type number :=
    total_controllerShare _ (k.config.controllerNames type).nonempty distinct _
      (clamped_nonneg k type number nonnegative maximum)
  rw [SkippedAgree, ← total_replaced, whole]
  rfl

/-- Set-then-get holds exactly when the `spec.replicas` of the skipped controllers add up to their
    new shares. -/
theorem set_then_get_iff (k : KubernetesCoordinator) (type : ServiceType) (number : Int32)
    (distinct : (k.config.controllerNames type).names.Nodup) (serves : k.Serves type)
    (nonnegative : 0 ≤ number) (maximum : 0 ≤ k.config.getMaxReplicaCount type) :
    (k.setReplicaCount type number).1.getReplicaCount type =
        .ok (min number (k.config.getMaxReplicaCount type)) ↔
      k.SkippedAgree type number := by
  have count := k.getReplicaCount_set_clamped_iff type number serves nonnegative maximum
  have skipped := k.addsUp_iff_skippedAgree type number distinct nonnegative maximum
  exact count.trans skipped

end KubernetesCoordinator

def scalingUp : KubernetesCoordinator where
  config := ⟨⟨8, 4⟩, .single "r", .single "p", "default"⟩
  cluster := ⟨fun _ _ => some ⟨2, 1⟩, fun _ _ => true⟩

theorem set_then_get_iff_scaling :
    scalingUp.Serves .producer ∧
      ((scalingUp.setReplicaCount .producer 3).1.getReplicaCount .producer = .ok (min 3 4) ↔
        scalingUp.SkippedAgree .producer 3) :=
  have serves : scalingUp.Serves .producer := fun _ _ => ⟨rfl, rfl⟩
  ⟨serves, scalingUp.set_then_get_iff .producer 3 (by simp [scalingUp, KubernetesCoordinatorConfig.controllerNames])
    serves (by decide) (by decide)⟩

/-- A request for one producer is dropped, since one is running, and the count stays two. -/
theorem set_then_get_stale :
    (scalingUp.config.controllerNames .producer).names.Nodup ∧ scalingUp.Serves .producer ∧
      (scalingUp.setReplicaCount .producer 1).1.getReplicaCount .producer = .ok 2 ∧
      (scalingUp.setReplicaCount .producer 1).1.getReplicaCount .producer ≠
        .ok (min 1 (scalingUp.config.getMaxReplicaCount .producer)) := by
  have stale : (scalingUp.setReplicaCount .producer 1).1.getReplicaCount .producer = .ok 2 := rfl
  have distinct : (scalingUp.config.controllerNames .producer).names.Nodup := List.nodup_singleton "p"
  have different : (scalingUp.setReplicaCount .producer 1).1.getReplicaCount .producer ≠
      .ok (min 1 (scalingUp.config.getMaxReplicaCount .producer)) := by
    rw [stale]
    decide
  exact ⟨distinct, fun _ _ => ⟨rfl, rfl⟩, stale, different⟩

end Coordinator
