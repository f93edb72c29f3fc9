import Demonstrator.Arithmetic.Int32
import Demonstrator.Arithmetic.Shares
import Demonstrator.Java.Coordinator.Service
import Mathlib.Logic.Function.Basic

namespace Coordinator

open Arithmetic

/-- A `String[]` of controller names as the configuration accepts it: not empty, and with the
    length of a Java array. -/
structure ControllerNames where
  names : List String
  nonempty : names ≠ []
  length_lt : names.length < 2 ^ 31

def ControllerNames.single (name : String) : ControllerNames := ⟨[name], by simp, by simp⟩

def ControllerNames.pair (first second : String) : ControllerNames := ⟨[first, second], by simp, by simp⟩

@[simp] theorem ControllerNames.single_names (name : String) : (single name).names = [name] := rfl

structure KubernetesCoordinatorConfig extends CoordinatorConfig where
  processorNames : ControllerNames
  producerNames : ControllerNames
  k8sNamespace : String

def KubernetesCoordinatorConfig.default : KubernetesCoordinatorConfig where
  toCoordinatorConfig := .default
  processorNames :=
    ⟨["inaetics-processor-controller", "inaetics-processor-celix-controller"], by simp, by simp⟩
  producerNames := ⟨["inaetics-producer-controller"], by simp, by simp⟩
  k8sNamespace := "default"

def KubernetesCoordinatorConfig.controllerNames (config : KubernetesCoordinatorConfig) :
    ServiceType → ControllerNames
  | .processor => config.processorNames
  | .producer => config.producerNames

structure Replicas where
  spec : Int32
  status : Int32
  deriving DecidableEq, Repr

structure ReplicationController where
  name : String
  replicas : Replicas

/-- The cluster behind the Kubernetes API, by namespace and name. A controller that is not there
    makes a call fail, and `scalable` says which scale requests succeed. -/
structure Cluster where
  controllers : String → String → Option Replicas
  scalable : String → String → Bool

namespace Cluster

def getReplicationController (c : Cluster) (ns name : String) : Option ReplicationController :=
  (c.controllers ns name).map fun replicas => ⟨name, replicas⟩

def scale (c : Cluster) (ns name : String) (count : Int32) : Cluster :=
  if c.scalable ns name then
    { c with controllers := fun ns' name' =>
        if ns' = ns ∧ name' = name then
          (c.controllers ns' name').map fun replicas => { replicas with spec := count }
        else c.controllers ns' name' }
  else c

def Serves (c : Cluster) (ns : String) (names : List String) : Prop :=
  ∀ name ∈ names, (c.controllers ns name).isSome ∧ c.scalable ns name = true

end Cluster

def indexOf (allNames : List String) (currentName : String) : Int32 :=
  if currentName ∈ allNames then Int32.ofNat (allNames.idxOf currentName) else -1

def getNewReplicaCount (allNames : List String) (currentName : String) (replicaSum : Int32) : Int32 :=
  let index := indexOf allNames currentName
  let remaining := replicaSum % Int32.ofNat allNames.length
  replicaSum / Int32.ofNat allNames.length + min 1 (max 0 (remaining - index))

/-- The subscriber of the private `setReplicaCount`: the decision looks at the status. -/
def scaleController (ns : String) (rcNames : List String) (newReplicaCountSum : Int32) (c : Cluster)
    (rc : ReplicationController) : Cluster :=
  let newReplicaCount := getNewReplicaCount rcNames rc.name newReplicaCountSum
  if rc.replicas.status ≠ newReplicaCount then c.scale ns rc.name newReplicaCount else c

/-- The private `setReplicaCount` as the controllers arrive; an error ends the stream and is logged. -/
def scaleControllers (ns : String) (rcNames : List String) (newReplicaCountSum : Int32) :
    List String → Cluster → Cluster
  | [], c => c
  | rcName :: later, c =>
    match c.getReplicationController ns rcName with
    | none => c
    | some rc => scaleControllers ns rcNames newReplicaCountSum later
        (scaleController ns rcNames newReplicaCountSum c rc)

def sumReplicas (c : Cluster) (ns : String) (rcNames : List String) : Except Failure Int32 :=
  match rcNames.mapM fun rcName => c.getReplicationController ns rcName with
  | none => .error .unavailable
  | some controllers => .ok (total (controllers.map fun rc => rc.replicas.spec))

structure KubernetesCoordinator where
  config : KubernetesCoordinatorConfig
  cluster : Cluster

namespace KubernetesCoordinator

def getReplicaCount (k : KubernetesCoordinator) (type : ServiceType) : Except Failure Int32 :=
  sumReplicas k.cluster k.config.k8sNamespace (k.config.controllerNames type).names

def setReplicaCount (k : KubernetesCoordinator) (type : ServiceType) (number : Int32) :
    KubernetesCoordinator × Bool :=
  if number < 0 then (k, false)
  else
    let names := (k.config.controllerNames type).names
    let newNumber := min number (k.config.getMaxReplicaCount type)
    let isNumberSet := newNumber == number
    ({ k with cluster := scaleControllers k.config.k8sNamespace names newNumber names k.cluster }, isNumberSet)

def service : CoordinatorService KubernetesCoordinator where
  getMaxReplicaCount k := k.config.getMaxReplicaCount
  getReplicaCount := getReplicaCount
  setReplicaCount := setReplicaCount

end KubernetesCoordinator

end Coordinator
