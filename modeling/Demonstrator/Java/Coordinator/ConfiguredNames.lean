import Demonstrator.Arithmetic.FirstPlaces
import Demonstrator.Java.Coordinator.KubernetesConfig
import Demonstrator.Java.Coordinator.Reconfiguration

namespace Coordinator

open Arithmetic ConfigUtils

def BlankName (name : String) : Prop := trim name.toList = []

instance (name : String) : Decidable (BlankName name) := inferInstanceAs (Decidable (_ = _))

def countSent (requests : List ScaleRequest) (rcName : String) : Int :=
  ((requests.find? fun request => request.rcName = rcName).map fun request => request.replicas.toInt).getD 0

structure Sane (requests : List ScaleRequest) (newNumber : Int32) : Prop where
  nonnegative : ∀ request ∈ requests, 0 ≤ request.replicas
  complete : ∑ rcName ∈ (requests.map ScaleRequest.rcName).toFinset, countSent requests rcName = newNumber.toInt
  named : ∀ request ∈ requests, ¬ BlankName request.rcName

def AllOutdated (cluster : Cluster) (ns : String) (names : List String) (newNumber : Int32) : Prop :=
  ∀ name ∈ names, ∃ replicas, cluster.controllers ns name = some replicas ∧
    replicas.status ≠ getNewReplicaCount names name newNumber

def shareRequests (ns : String) (names : List String) (newNumber : Int32) (arrivals : List String) :
    List ScaleRequest :=
  arrivals.map fun name => ⟨ns, name, getNewReplicaCount names name newNumber⟩

theorem scaleRequests_all {cluster : Cluster} {ns : String} {names arrivals : List String} {newNumber : Int32}
    (outdated : AllOutdated cluster ns names newNumber) (known : ∀ name ∈ arrivals, name ∈ names) :
    scaleRequests ns names newNumber arrivals cluster = shareRequests ns names newNumber arrivals := by
  have answered : cluster.answered ns arrivals = arrivals := by
    rw [Cluster.answered, List.takeWhile_eq_self_iff]
    intro name member
    obtain ⟨replicas, found, _⟩ := outdated name (known name member)
    simp [found]
  have all : cluster.outdated ns names newNumber arrivals =
      arrivals.map fun name => (name, getNewReplicaCount names name newNumber) := by
    rw [Cluster.outdated, answered, List.filter_eq_self]
    intro entry listed
    obtain ⟨name, member, rfl⟩ := List.mem_map.mp listed
    obtain ⟨replicas, found, differs⟩ := outdated name (known name member)
    simpa [Cluster.status, found] using differs
  rw [scaleRequests_outdated, all, List.map_map]
  rfl

theorem countSent_share (ns : String) (names : List String) (newNumber : Int32) (arrivals : List String)
    (name : String) (member : name ∈ arrivals) :
    countSent (shareRequests ns names newNumber arrivals) name =
      (getNewReplicaCount names name newNumber).toInt := by
  have found : arrivals.find? (fun rcName => decide (rcName = name)) = some name := by
    cases search : arrivals.find? fun rcName => decide (rcName = name) with
    | none =>
      have missing := List.find?_eq_none.mp search name member
      simp at missing
    | some other =>
      have same := List.find?_some search
      rw [of_decide_eq_true same]
  have sent : (shareRequests ns names newNumber arrivals).find? (fun request => request.rcName = name) =
      some ⟨ns, name, getNewReplicaCount names name newNumber⟩ := by
    rw [shareRequests, List.find?_map]
    exact congrArg (Option.map _) found
  simp only [countSent, sent, Option.map_some, Option.getD_some]

theorem sum_countSent (ns : String) (names : ControllerNames) (newNumber : Int32) (nonnegative : 0 ≤ newNumber)
    (arrivals : List String) (order : arrivals.Perm names.names) :
    ∑ rcName ∈ ((shareRequests ns names.names newNumber arrivals).map ScaleRequest.rcName).toFinset,
        countSent (shareRequests ns names.names newNumber arrivals) rcName =
      (∑ name ∈ names.names.toFinset,
        share names.names.length newNumber.toNatClampNeg (names.names.idxOf name) : Nat) := by
  have addressed : ((shareRequests ns names.names newNumber arrivals).map ScaleRequest.rcName).toFinset =
      names.names.toFinset := by
    rw [shareRequests, List.map_map]
    exact (congrArg List.toFinset (List.map_id arrivals)).trans (List.toFinset_eq_of_perm _ _ order)
  rw [addressed, Nat.cast_sum]
  apply Finset.sum_congr rfl
  intro name listed
  have member := List.mem_toFinset.mp listed
  rw [countSent_share ns _ newNumber arrivals name (order.mem_iff.mpr member),
    getNewReplicaCount_share names.names names.length_lt newNumber nonnegative name member, controllerShare_toInt]

theorem sane_iff_of_nonneg (ns : String) (names : ControllerNames) (newNumber : Int32)
    (nonnegative : 0 ≤ newNumber) (arrivals : List String) (order : arrivals.Perm names.names) :
    Sane (shareRequests ns names.names newNumber arrivals) newNumber ↔
      (names.names.take newNumber.toNatClampNeg).Nodup ∧ ∀ name ∈ names.names, ¬ BlankName name := by
  have whole : newNumber.toInt = (newNumber.toNatClampNeg : Int) :=
    (Int.toNat_of_nonneg (toInt_nonneg.mp nonnegative)).symm
  have sum := sum_countSent ns names newNumber nonnegative arrivals order
  have once := sum_share_once_iff names.names names.nonempty newNumber.toNatClampNeg
  constructor
  · intro sane
    have complete := sane.complete
    rw [sum, whole, Nat.cast_inj, once] at complete
    refine ⟨complete, ?_⟩
    intro name member
    exact sane.named ⟨ns, name, _⟩ (List.mem_map_of_mem (order.mem_iff.mpr member))
  · intro ⟨distinct, named⟩
    refine ⟨?_, ?_, ?_⟩
    · intro request listed
      obtain ⟨name, arrived, rfl⟩ := List.mem_map.mp listed
      rw [getNewReplicaCount_share names.names names.length_lt newNumber nonnegative name
        (order.mem_iff.mp arrived), toInt_nonneg, controllerShare_toInt]
      omega
    · rw [sum, whole, Nat.cast_inj, once]
      exact distinct
    · intro request listed
      obtain ⟨name, arrived, rfl⟩ := List.mem_map.mp listed
      exact named name (order.mem_iff.mp arrived)

theorem not_sane_of_neg (requests : List ScaleRequest) (newNumber : Int32) (negative : newNumber < 0) :
    ¬ Sane requests newNumber := by
  intro sane
  have below := Int32.lt_iff_toInt_lt.mp negative
  rw [Int32.toInt_zero] at below
  have sum : 0 ≤ ∑ rcName ∈ (requests.map ScaleRequest.rcName).toFinset, countSent requests rcName := by
    apply Finset.sum_nonneg
    intro rcName _
    unfold countSent
    cases found : requests.find? fun request => request.rcName = rcName with
    | none => exact le_rfl
    | some request => exact toInt_nonneg.mp (sane.nonnegative request (List.mem_of_find?_eq_some found))
  rw [sane.complete] at sum
  omega

theorem alone_sane_iff (config : KubernetesCoordinatorConfig) (k8s : Kubernetes) (type : ServiceType)
    (number : Int32) (nonnegative : 0 ≤ number)
    (order : (k8s.arrivals config.k8sNamespace (config.controllerNames type).names).Perm
      (config.controllerNames type).names)
    (outdated : AllOutdated k8s.cluster config.k8sNamespace (config.controllerNames type).names
      (min number (config.getMaxReplicaCount type))) :
    Sane (alone k8s type number config).requests (min number (config.getMaxReplicaCount type)) ↔
      0 ≤ config.getMaxReplicaCount type ∧
        ((config.controllerNames type).names.take
          (min number (config.getMaxReplicaCount type)).toNatClampNeg).Nodup ∧
        ∀ name ∈ (config.controllerNames type).names, ¬ BlankName name := by
  have low := toInt_nonneg.mp nonnegative
  have notNegative : ¬ number < 0 := Int32.not_lt.mpr nonnegative
  have sent := scaleRequests_all outdated fun name arrived => order.mem_iff.mp arrived
  simp only [alone, notNegative, if_false, mixed, send, clampTo, sent]
  by_cases maximum : 0 ≤ config.getMaxReplicaCount type
  · have clamped : 0 ≤ min number (config.getMaxReplicaCount type) := by
      rw [toInt_nonneg] at maximum ⊢
      rw [toInt_min]
      omega
    rw [sane_iff_of_nonneg config.k8sNamespace (config.controllerNames type) _ clamped _ order]
    simp only [maximum, true_and]
  · have clamped : min number (config.getMaxReplicaCount type) < 0 := by
      rw [toInt_nonneg] at maximum
      rw [Int32.lt_iff_toInt_lt, toInt_min, Int32.toInt_zero]
      omega
    have insane := not_sane_of_neg (shareRequests config.k8sNamespace (config.controllerNames type).names
      (min number (config.getMaxReplicaCount type))
      (k8s.arrivals config.k8sNamespace (config.controllerNames type).names)) _ clamped
    simp only [insane, maximum, false_and]

/-- With an accepted dictionary a request scales sanely exactly when the maximum is not negative, no name is
    repeated among the controllers that get a replica, and no name is blank. -/
theorem accepted_config_scales_sanely_iff (properties : Properties) (config : KubernetesCoordinatorConfig)
    (k8s : Kubernetes) (type : ServiceType) (number : Int32) :
    KubernetesCoordinatorConfig.ofProperties properties = .ok config → 0 ≤ number →
    (k8s.arrivals config.k8sNamespace (config.controllerNames type).names).Perm
      (config.controllerNames type).names →
    AllOutdated k8s.cluster config.k8sNamespace (config.controllerNames type).names
      (min number (config.getMaxReplicaCount type)) →
    (Sane (alone k8s type number config).requests (min number (config.getMaxReplicaCount type)) ↔
      0 ≤ config.getMaxReplicaCount type ∧
        ((config.controllerNames type).names.take
          (min number (config.getMaxReplicaCount type)).toNatClampNeg).Nodup ∧
        ∀ name ∈ (config.controllerNames type).names, ¬ BlankName name) := by
  intro _ nonnegative order outdated
  exact alone_sane_iff config k8s type number nonnegative order outdated

def textValue (text : String) (length_lt : text.toList.length < 2 ^ 31) : Option Value :=
  some ⟨text, none, length_lt⟩

def careful : Properties := fun key =>
  if key = keyMaxNrProcessors then textValue "8" (by decide)
  else if key = keyMaxNrProducers then textValue "4" (by decide)
  else if key = keyProcessorNames then textValue "java, celix" (by decide)
  else if key = keyProducerNames then textValue "producer" (by decide)
  else if key = keyK8sNamespace then textValue "default" (by decide)
  else none

def carefulConfig : KubernetesCoordinatorConfig :=
  ⟨⟨8, 4⟩, .pair "java" "celix", .single "producer", "default"⟩

theorem accepted_config_scales_sanely_careful :
    KubernetesCoordinatorConfig.ofProperties careful = .ok carefulConfig ∧
      (Sane (alone idleControllers .processor 3 carefulConfig).requests (min 3 8) ↔
        (0 : Int32) ≤ 8 ∧ (["java", "celix"].take (min 3 8 : Int32).toNatClampNeg).Nodup ∧
          ∀ name ∈ ["java", "celix"], ¬ BlankName name) := by
  refine ⟨rfl, accepted_config_scales_sanely_iff careful carefulConfig idleControllers .processor 3 rfl
    (by decide) (.refl _) ?_⟩
  intro name member
  have names : name ∈ ["java", "celix"] := member
  simp only [List.mem_cons, List.not_mem_nil, or_false] at names
  rcases names with rfl | rfl
  · exact ⟨_, rfl, by decide⟩
  · exact ⟨_, rfl, by decide⟩

def careless : Properties := fun key =>
  if key = keyMaxNrProcessors then textValue "8" (by decide)
  else if key = keyMaxNrProducers then textValue "-3" (by decide)
  else if key = keyProcessorNames then textValue "worker, worker" (by decide)
  else if key = keyProducerNames then textValue "" (by decide)
  else if key = keyK8sNamespace then textValue "default" (by decide)
  else none

def carelessConfig : KubernetesCoordinatorConfig :=
  ⟨⟨8, -3⟩, ⟨["worker", "worker"], by simp, by simp⟩, ⟨[""], by simp, by simp⟩, "default"⟩

/-- The dictionary is accepted; of three processors only two are asked for, and one producer becomes a
    request for minus three replicas of a controller without a name. -/
theorem careless_config_scales :
    KubernetesCoordinatorConfig.ofProperties careless = .ok carelessConfig ∧
      AllOutdated idleControllers.cluster "default" ["worker", "worker"] 3 ∧
      AllOutdated idleControllers.cluster "default" [""] (-3) ∧
      (alone idleControllers .processor 3 carelessConfig).requests =
        [⟨"default", "worker", 2⟩, ⟨"default", "worker", 2⟩] ∧
      (alone idleControllers .producer 1 carelessConfig).requests = [⟨"default", "", -3⟩] ∧
      ¬ Sane (alone idleControllers .processor 3 carelessConfig).requests 3 ∧
      ¬ Sane (alone idleControllers .producer 1 carelessConfig).requests (-3) := by
  have processors : (alone idleControllers .processor 3 carelessConfig).requests =
      [⟨"default", "worker", 2⟩, ⟨"default", "worker", 2⟩] := by decide +kernel
  have producers : (alone idleControllers .producer 1 carelessConfig).requests = [⟨"default", "", -3⟩] := by
    decide +kernel
  have workers : AllOutdated idleControllers.cluster "default" ["worker", "worker"] 3 := by
    intro name member
    simp only [List.mem_cons, List.not_mem_nil, or_false, or_self] at member
    subst member
    exact ⟨_, rfl, by decide⟩
  have nameless : AllOutdated idleControllers.cluster "default" [""] (-3) := by
    intro name member
    rw [List.mem_singleton.mp member]
    exact ⟨_, rfl, by decide⟩
  refine ⟨rfl, workers, nameless, processors, producers, ?_, ?_⟩
  · intro sane
    have complete := sane.complete
    rw [processors] at complete
    exact absurd complete (by decide)
  · exact not_sane_of_neg _ _ (by decide)

end Coordinator
