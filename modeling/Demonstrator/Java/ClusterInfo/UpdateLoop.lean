import Demonstrator.Collections.SortedSet
import Demonstrator.Java.ClusterInfo.DockerHelper
import Demonstrator.Java.Util.ConfigUtils
import Demonstrator.Transition.Runs
import Mathlib.Data.Finset.Dedup
import Mathlib.Data.Finset.Insert
import Mathlib.Logic.Function.Basic

namespace ClusterInfo

open Collections ConfigUtils Text Transition

variable {Number : Type}

structure ClusterInfoConfig where
  cAdvisorPort : Int32
  updatePeriod : Int32
  deriving DecidableEq, Repr

/-- `getIntValue` with a default, which also replaces a value that is no integer. -/
def getIntValue (properties : Dictionary) (key : String) (defaultValue : Int32) : Int32 :=
  ((properties key).bind parseInt).getD defaultValue

def ClusterInfoConfig.ofProperties (properties : Dictionary) : ClusterInfoConfig where
  cAdvisorPort := getIntValue properties "cAdvisorPort" 4194
  updatePeriod := getIntValue properties "updatePeriod" 30

inductive Thrown where
  | ioException
  | runtimeException
  deriving DecidableEq, Repr

/-- The set that a `ClusterNodeQuerier` returns, in the order of its iterator. -/
structure NodeIPs where
  elements : List String
  distinct : elements.Nodup

structure NodeAddress where
  type : Option String
  address : String
  deriving DecidableEq, Repr

/-- The first address of the type that a `KubernetesClusterNodeQuerier` looks for; `get` of an empty `Optional` and
    `equals` on a null type throw. -/
def legacyHostIP : List NodeAddress → Except Thrown String
  | [] => .error .runtimeException
  | address :: later =>
    match address.type with
    | none => .error .runtimeException
    | some type => if type = "LegacyHostIP" then .ok address.address else legacyHostIP later

def getClusterNodeIPs (result : Finset String) : List (List NodeAddress) → Except Thrown (Finset String)
  | [] => .ok result
  | addresses :: later =>
    match legacyHostIP addresses with
    | .ok ip => getClusterNodeIPs (insert ip result) later
    | .error thrown => .error thrown

def gathered (runtime : Runtime Number) (config : ClusterInfoConfig) (answer : Except Thrown NodeIPs)
    (documents : String → Int32 → Option (JsonNode Number)) : Except Thrown (List NodeInfo) :=
  match answer with
  | .error thrown => .error thrown
  | .ok ips =>
    match gatherClusterInfo runtime (ips.elements.map fun ip => (ip, documents ip config.cAdvisorPort)) with
    | .ok clusterInfo => .ok clusterInfo
    | .error _ => .error .runtimeException

inductive Position where
  | queued
  | reading
  | sleeping (config : ClusterInfoConfig)
  | gathering (config : ClusterInfoConfig) (running : Bool)
  | testing (running : Bool)
  | ended
  deriving DecidableEq, Repr

/-- The task of one `start`; `late` counts what it has published since it was cancelled. -/
structure Task where
  position : Position
  interrupted : Bool
  cancelled : Bool
  late : Nat
  deriving DecidableEq, Repr

structure Provider where
  config : Option ClusterInfoConfig
  clusterInfo : List NodeInfo
  future : Option Nat
  starts : Nat
  task : Nat → Task
  published : List (List NodeInfo)

def Provider.create : Provider := ⟨none, [], none, 0, fun _ => ⟨.ended, false, false, 0⟩, []⟩

inductive Action (Number : Type) where
  | updated (properties : Dictionary)
  | start
  | stop
  | begin' (k : Nat)
  | read (k : Nat)
  | sleep (k : Nat)
  | gather (k : Nat) (answer : Except Thrown NodeIPs) (documents : String → Int32 → Option (JsonNode Number))
  | test (k : Nat)

def Provider.write (s : Provider) (k : Nat) (task : Task) : Provider := { s with task := Function.update s.task k task }

def Task.cancel (task : Task) : Task :=
  match task.position with
  | .queued => { task with position := .ended, cancelled := true }
  | .ended => task
  | _ => { task with interrupted := true, cancelled := true }

def Task.publish (task : Task) (running : Bool) : Task :=
  { task with position := .testing running, late := task.late + if task.cancelled then 1 else 0 }

def step (runtime : Runtime Number) (s : Provider) : Action Number → Option Provider
  | .updated properties => some { s with config := some (.ofProperties properties) }
  | .start =>
    if s.future = none then
      some { s.write s.starts ⟨.queued, false, false, 0⟩ with future := some s.starts, starts := s.starts + 1 }
    else none
  | .stop =>
    match s.future with
    | some k => some { s.write k (s.task k).cancel with future := none }
    | none => none
  | .begin' k => if (s.task k).position = .queued then some (s.write k { s.task k with position := .reading }) else none
  | .read k =>
    if (s.task k).position = .reading then
      match s.config with
      -- the NullPointerException ends the task
      | none => some (s.write k { s.task k with position := .ended })
      | some config => some (s.write k { s.task k with position := .sleeping config })
    else none
  | .sleep k =>
    match (s.task k).position with
    | .sleeping config =>
      -- a period that is not positive does not sleep; an interrupted sleep sets the flag again
      let interrupted := decide (0 < config.updatePeriod) && (s.task k).interrupted
      some (s.write k { s.task k with position := .gathering config !interrupted })
    | _ => none
  | .gather k answer documents =>
    match (s.task k).position with
    | .gathering config running =>
      match gathered runtime config answer documents with
      | .ok clusterInfo =>
        some { s.write k ((s.task k).publish running) with
          clusterInfo := clusterInfo
          published := s.published ++ [clusterInfo] }
      | .error .ioException => some (s.write k { s.task k with position := .testing running })
      | .error .runtimeException => some (s.write k { s.task k with position := .ended })
    | _ => none
  | .test k =>
    match (s.task k).position with
    | .testing running =>
      some (s.write k { s.task k with position := if running && !(s.task k).interrupted then .reading else .ended })
    | _ => none

section Gathering

variable {runtime : Runtime Number}

def info (runtime : Runtime Number) (node : String × Option (JsonNode Number)) : Option NodeInfo :=
  (getContainerInfo runtime node.2).toOption.map (NodeInfo.mk node.1)

theorem nodeInfos_ok_iff {nodes : List (String × Option (JsonNode Number))} {infos : List NodeInfo} :
    nodeInfos runtime nodes = .ok infos ↔
      (∀ node ∈ nodes, (info runtime node).isSome) ∧ infos = nodes.filterMap (info runtime) := by
  induction nodes generalizing infos with
  | nil =>
    constructor
    · intro returned
      cases returned
      exact ⟨fun _ wrong => absurd wrong List.not_mem_nil, rfl⟩
    · rintro ⟨_, rfl⟩
      rfl
  | cons node later ih =>
    obtain ⟨ip, document⟩ := node
    rw [List.forall_mem_cons]
    cases read : getContainerInfo runtime document with
    | error exit =>
      constructor
      · intro returned
        rw [nodeInfos, read] at returned
        cases returned
      · rintro ⟨⟨wrong, _⟩, _⟩
        simp [info, read, Except.toOption] at wrong
    | ok containerList =>
      have here : info runtime (ip, document) = some ⟨ip, containerList⟩ := by simp [info, read, Except.toOption]
      rw [nodeInfos, bind_ok_iff, List.filterMap_cons_some here, here]
      constructor
      · rintro ⟨found, known, rest⟩
        cases read.symm.trans known
        obtain ⟨others, gathered, made⟩ := bind_ok_iff.mp rest
        cases made
        obtain ⟨each, rfl⟩ := ih.mp gathered
        exact ⟨⟨rfl, each⟩, rfl⟩
      · rintro ⟨⟨_, each⟩, rfl⟩
        exact ⟨containerList, read, bind_ok_iff.mpr ⟨_, ih.mpr ⟨each, rfl⟩, rfl⟩⟩

theorem filterMap_info_ips {nodes : List (String × Option (JsonNode Number))}
    (each : ∀ node ∈ nodes, (info runtime node).isSome) :
    (nodes.filterMap (info runtime)).map NodeInfo.ipAddress = nodes.map Prod.fst := by
  induction nodes with
  | nil => rfl
  | cons node later ih =>
    obtain ⟨here, others⟩ := List.forall_mem_cons.mp each
    obtain ⟨found, known⟩ := Option.isSome_iff_exists.mp here
    obtain ⟨containerList, _, rfl⟩ := Option.map_eq_some_iff.mp known
    rw [List.filterMap_cons_some known, List.map_cons, List.map_cons, ih others]

def NodeInfo.key (node : NodeInfo) : List Nat := codeUnits node.ipAddress.toList

def Sorted (clusterInfo : List NodeInfo) : Prop := SortedSet.Ordered compare NodeInfo.key clusterInfo

theorem keys_nodup {infos : List NodeInfo} (distinct : (infos.map NodeInfo.ipAddress).Nodup) :
    (infos.map NodeInfo.key).Nodup := by
  have injective : Function.Injective fun ip : String => codeUnits ip.toList :=
    fun _ _ same => String.toList_injective (codeUnits_injective same)
  have keys : infos.map NodeInfo.key = (infos.map NodeInfo.ipAddress).map fun ip => codeUnits ip.toList := by
    rw [List.map_map]
    rfl
  rw [keys]
  exact distinct.map injective

variable {config : ClusterInfoConfig} {documents : String → Int32 → Option (JsonNode Number)}
  {clusterInfo : List NodeInfo}

def readable (runtime : Runtime Number) (config : ClusterInfoConfig)
    (documents : String → Int32 → Option (JsonNode Number)) (ips : List String) : List NodeInfo :=
  ips.filterMap fun ip => info runtime (ip, documents ip config.cAdvisorPort)

theorem readable_ips {ips : List String}
    (each : ∀ ip ∈ ips, (info runtime (ip, documents ip config.cAdvisorPort)).isSome) :
    (readable runtime config documents ips).map NodeInfo.ipAddress = ips := by
  have known : ∀ node ∈ ips.map fun ip => (ip, documents ip config.cAdvisorPort), (info runtime node).isSome :=
    List.forall_mem_map.mpr each
  have nodes := filterMap_info_ips known
  rw [List.filterMap_map, List.map_map] at nodes
  exact nodes.trans (List.map_id _)

theorem gathered_ok_iff {ips : NodeIPs} :
    gathered runtime config (.ok ips) documents = .ok clusterInfo ↔
      (∀ ip ∈ ips.elements, (info runtime (ip, documents ip config.cAdvisorPort)).isSome) ∧ Sorted clusterInfo ∧
        clusterInfo.Perm (readable runtime config documents ips.elements) := by
  have nodes : ∀ infos, nodeInfos runtime (ips.elements.map fun ip => (ip, documents ip config.cAdvisorPort)) =
      .ok infos ↔ (∀ ip ∈ ips.elements, (info runtime (ip, documents ip config.cAdvisorPort)).isSome) ∧
        infos = readable runtime config documents ips.elements := by
    intro infos
    rw [nodeInfos_ok_iff, List.filterMap_map, List.forall_mem_map]
    rfl
  have sorted : (∀ ip ∈ ips.elements, (info runtime (ip, documents ip config.cAdvisorPort)).isSome) →
      Sorted ((readable runtime config documents ips.elements).mergeSort fun a b => a.compareTo b != .gt) := by
    intro each
    have distinct : ((readable runtime config documents ips.elements).map NodeInfo.ipAddress).Nodup := by
      rw [readable_ips each]
      exact ips.distinct
    have ordered : SortedSet.Ordered compare NodeInfo.key ((readable runtime config documents ips.elements).mergeSort
        fun a b => compare a.key b.key != .gt) := SortedSet.ordered_mergeSort (keys_nodup distinct)
    exact ordered
  have returned : gathered runtime config (.ok ips) documents = .ok clusterInfo ↔
      gatherClusterInfo runtime (ips.elements.map fun ip => (ip, documents ip config.cAdvisorPort)) =
        .ok clusterInfo := by
    rw [gathered]
    split <;> simp [*]
  rw [returned, gatherClusterInfo, bind_ok_iff]
  constructor
  · rintro ⟨infos, found, made⟩
    obtain ⟨each, rfl⟩ := (nodes infos).mp found
    cases made
    exact ⟨each, sorted each, List.mergeSort_perm _ _⟩
  · rintro ⟨each, ordered, same⟩
    refine ⟨_, (nodes _).mpr ⟨each, rfl⟩, ?_⟩
    rw [SortedSet.Ordered.eq_of_perm (sorted each) ordered ((List.mergeSort_perm _ _).trans same.symm)]
    rfl

theorem sorted_gathered {answer : Except Thrown NodeIPs}
    (returned : gathered runtime config answer documents = .ok clusterInfo) : Sorted clusterInfo := by
  cases answer with
  | error thrown => cases returned
  | ok ips => exact (gathered_ok_iff.mp returned).2.1

theorem mem_getClusterNodeIPs {nodes : List (List NodeAddress)} {result set : Finset String}
    (listed : getClusterNodeIPs result nodes = .ok set) (ip : String) :
    ip ∈ set ↔ ip ∈ result ∨ ∃ addresses ∈ nodes, legacyHostIP addresses = .ok ip := by
  induction nodes generalizing result with
  | nil =>
    cases listed
    simp
  | cons addresses later ih =>
    rw [getClusterNodeIPs] at listed
    cases first : legacyHostIP addresses with
    | error thrown =>
      rw [first] at listed
      cases listed
    | ok found =>
      rw [first] at listed
      rw [ih listed, Finset.mem_insert, List.exists_mem_cons_iff, first, or_assoc, or_left_comm, Except.ok.injEq,
        eq_comm]

end Gathering

/-- The list that is gathered from the nodes of the cluster has one entry for each address that they have, sorted, and
    does not depend on the order in which the set of the addresses is walked through. -/
theorem gathered_from_nodes (runtime : Runtime Number) (config : ClusterInfoConfig)
    (documents : String → Int32 → Option (JsonNode Number)) (nodes : List (List NodeAddress)) (set : Finset String)
    (listed : getClusterNodeIPs ∅ nodes = .ok set) (ips other : NodeIPs) (one : ips.elements.toFinset = set)
    (two : other.elements.toFinset = set) (clusterInfo : List NodeInfo) :
    (gathered runtime config (.ok ips) documents = .ok clusterInfo ↔
        gathered runtime config (.ok other) documents = .ok clusterInfo) ∧
      (gathered runtime config (.ok ips) documents = .ok clusterInfo → Sorted clusterInfo ∧
        ∀ ip, ip ∈ clusterInfo.map NodeInfo.ipAddress ↔ ∃ addresses ∈ nodes, legacyHostIP addresses = .ok ip) := by
  have same : ips.elements.Perm other.elements :=
    List.perm_of_nodup_nodup_toFinset_eq ips.distinct other.distinct (one.trans two.symm)
  constructor
  · rw [gathered_ok_iff, gathered_ok_iff]
    apply and_congr
    · exact ⟨fun each ip member => each ip (same.mem_iff.mpr member), fun each ip member => each ip (same.mem_iff.mp member)⟩
    · apply and_congr_right
      intro _
      exact List.Perm.congr_right (same.filterMap _) clusterInfo
  · intro returned
    obtain ⟨each, sorted, perm⟩ := gathered_ok_iff.mp returned
    refine ⟨sorted, fun ip => ?_⟩
    have ipAddresses := perm.map NodeInfo.ipAddress
    rw [readable_ips each] at ipAddresses
    rw [ipAddresses.mem_iff, ← List.mem_toFinset, one, mem_getClusterNodeIPs listed]
    simp

def plainRuntime : Runtime Int := ⟨some, fun _ => 0, fun _ => 0, some⟩

theorem gathered_from_three :
    let nodes : List (List NodeAddress) :=
      [[⟨some "Hostname", "node-2"⟩, ⟨some "LegacyHostIP", "10.0.0.2"⟩], [⟨some "LegacyHostIP", "10.0.0.1"⟩],
        [⟨some "LegacyHostIP", "10.0.0.2"⟩, ⟨none, "?"⟩]]
    getClusterNodeIPs ∅ nodes = .ok {"10.0.0.1", "10.0.0.2"} ∧
      gathered plainRuntime ⟨4194, 30⟩ (.ok ⟨["10.0.0.2", "10.0.0.1"], by decide⟩) (fun _ _ => none) =
        .ok [⟨"10.0.0.1", []⟩, ⟨"10.0.0.2", []⟩] := by
  intro nodes
  have listed : getClusterNodeIPs ∅ nodes = .ok {"10.0.0.1", "10.0.0.2"} := by decide +kernel
  have plain : gathered plainRuntime ⟨4194, 30⟩ (.ok ⟨["10.0.0.1", "10.0.0.2"], by decide⟩) (fun _ _ => none) =
      .ok [⟨"10.0.0.1", []⟩, ⟨"10.0.0.2", []⟩] := by
    rw [gathered_ok_iff]
    refine ⟨by decide, ?_, List.Perm.refl _⟩
    unfold Sorted SortedSet.Ordered
    decide +kernel
  exact ⟨listed, (gathered_from_nodes plainRuntime ⟨4194, 30⟩ (fun _ _ => none) nodes _ listed _ _ (by decide) (by decide)
    _).1.mp plain⟩

section Runs

variable {runtime : Runtime Number} {s t : Provider} {action : Action Number}

def Position.Early : Position → Prop
  | .queued | .reading | .sleeping _ | .gathering _ _ => True
  | .testing _ | .ended => False

/-- A cancelled task keeps the interrupt, and so it does not come round again. -/
structure Task.Bounded (task : Task) : Prop where
  once : task.late ≤ 1
  running : task.cancelled = false → task.late = 0
  early : task.position.Early → task.late = 0
  flagged : task.cancelled = true → task.position ≠ .ended → task.interrupted = true

theorem bounded_cancel {task : Task} (bounded : task.Bounded) : task.cancel.Bounded := by
  unfold Task.cancel
  split
  · exact ⟨bounded.once, fun wrong => (by cases wrong), fun wrong => wrong.elim, fun _ wrong => absurd rfl wrong⟩
  · exact bounded
  · exact ⟨bounded.once, fun wrong => (by cases wrong), bounded.early, fun _ _ => rfl⟩

theorem bounded_go {task : Task} {position : Position} (bounded : task.Bounded) (alive : task.position ≠ .ended)
    (early : position.Early → task.position.Early ∨ task.interrupted = false) :
    Task.Bounded { task with position } := by
  refine ⟨bounded.once, bounded.running, fun here => ?_, fun cancelled _ => bounded.flagged cancelled alive⟩
  rcases early here with before | clear
  · exact bounded.early before
  · apply bounded.running
    by_contra cancelled
    rw [bounded.flagged (Bool.eq_true_of_not_eq_false cancelled) alive] at clear
    cases clear

theorem bounded_publish {task : Task} (running : Bool) (bounded : task.Bounded) (early : task.position.Early)
    (alive : task.position ≠ .ended) : (task.publish running).Bounded := by
  have none := bounded.early early
  refine ⟨?_, fun open' => ?_, fun wrong => wrong.elim, fun cancelled _ => bounded.flagged cancelled alive⟩
  · simp only [Task.publish, none]
    split <;> omega
  · change task.cancelled = false at open'
    simp [Task.publish, none, open']

theorem step_cases (h : step runtime s action = some t) :
    (∃ k task, t.task = Function.update s.task k task ∧ ((s.task k).Bounded → task.Bounded)) ∧
      (t.clusterInfo = s.clusterInfo ∧ t.published = s.published ∨
        ∃ k clusterInfo, (s.task k).position ≠ .ended ∧ Sorted clusterInfo ∧ t.clusterInfo = clusterInfo ∧
          t.published = s.published ++ [clusterInfo]) := by
  cases action with
  | updated properties =>
    cases h
    exact ⟨⟨0, s.task 0, (Function.update_eq_self 0 s.task).symm, id⟩, .inl ⟨rfl, rfl⟩⟩
  | start =>
    simp only [step] at h
    split at h <;> cases h
    refine ⟨⟨_, _, rfl, fun _ => ⟨Nat.zero_le 1, fun _ => rfl, fun _ => rfl, fun wrong => ?_⟩⟩, .inl ⟨rfl, rfl⟩⟩
    cases wrong
  | stop =>
    simp only [step] at h
    split at h <;> cases h
    exact ⟨⟨_, _, rfl, bounded_cancel⟩, .inl ⟨rfl, rfl⟩⟩
  | begin' k =>
    simp only [step] at h
    split at h <;> cases h
    rename_i queued
    have alive : (s.task k).position ≠ .ended := by rw [queued]; simp
    refine ⟨⟨k, _, rfl, fun bounded => bounded_go bounded alive fun _ => .inl ?_⟩, .inl ⟨rfl, rfl⟩⟩
    rw [queued]
    exact True.intro
  | read k =>
    simp only [step] at h
    split at h
    · rename_i reading
      have alive : (s.task k).position ≠ .ended := by rw [reading]; simp
      split at h <;> cases h
      · exact ⟨⟨k, _, rfl, fun bounded => bounded_go bounded alive fun wrong => wrong.elim⟩, .inl ⟨rfl, rfl⟩⟩
      · refine ⟨⟨k, _, rfl, fun bounded => bounded_go bounded alive fun _ => .inl ?_⟩, .inl ⟨rfl, rfl⟩⟩
        rw [reading]
        exact True.intro
    · cases h
  | sleep k =>
    simp only [step] at h
    split at h <;> cases h
    rename_i config sleeping
    have alive : (s.task k).position ≠ .ended := by rw [sleeping]; simp
    refine ⟨⟨k, _, rfl, fun bounded => bounded_go bounded alive fun _ => .inl ?_⟩, .inl ⟨rfl, rfl⟩⟩
    rw [sleeping]
    exact True.intro
  | gather k answer documents =>
    simp only [step] at h
    split at h
    · rename_i config running gathering
      have alive : (s.task k).position ≠ .ended := by rw [gathering]; simp
      have early : (s.task k).position.Early := by rw [gathering]; exact True.intro
      split at h <;> cases h
      · rename_i clusterInfo returned
        exact ⟨⟨k, _, rfl, fun bounded => bounded_publish running bounded early alive⟩,
          .inr ⟨k, clusterInfo, alive, sorted_gathered returned, rfl, rfl⟩⟩
      · exact ⟨⟨k, _, rfl, fun bounded => bounded_go bounded alive fun wrong => wrong.elim⟩, .inl ⟨rfl, rfl⟩⟩
      · exact ⟨⟨k, _, rfl, fun bounded => bounded_go bounded alive fun wrong => wrong.elim⟩, .inl ⟨rfl, rfl⟩⟩
    · cases h
  | test k =>
    simp only [step] at h
    split at h <;> cases h
    rename_i running testing
    have alive : (s.task k).position ≠ .ended := by rw [testing]; simp
    refine ⟨⟨k, _, rfl, fun bounded => bounded_go bounded alive fun again => .inr ?_⟩, .inl ⟨rfl, rfl⟩⟩
    split at again
    · rename_i goes
      rw [Bool.and_eq_true, Bool.not_eq_true'] at goes
      exact goes.2
    · exact again.elim

structure Consistent (s : Provider) : Prop where
  shown : s.clusterInfo = s.published.getLast?.getD []
  sorted : ∀ clusterInfo ∈ s.published, Sorted clusterInfo
  bounded : ∀ k, (s.task k).Bounded

theorem consistent_create : Consistent Provider.create where
  shown := rfl
  sorted := by
    intro clusterInfo member
    cases member
  bounded := by
    intro k
    exact ⟨Nat.zero_le 1, fun _ => rfl, fun _ => rfl, fun wrong => (by cases wrong)⟩

theorem consistent_step (consistent : Consistent s) (h : step runtime s action = some t) : Consistent t := by
  obtain ⟨⟨k, task, tasks, keeps⟩, lists⟩ := step_cases h
  have bounded : ∀ j, (t.task j).Bounded := by
    intro j
    rw [tasks]
    by_cases same : j = k
    · rw [same, Function.update_self]
      exact keeps (consistent.bounded k)
    · rw [Function.update_of_ne same]
      exact consistent.bounded j
  rcases lists with ⟨clusterInfo, published⟩ | ⟨_, clusterInfo, _, sorted, shown, published⟩
  · refine ⟨?_, ?_, bounded⟩
    · rw [clusterInfo, published]
      exact consistent.shown
    · rw [published]
      exact consistent.sorted
  · refine ⟨?_, ?_, bounded⟩
    · simp [shown, published]
    · rw [published]
      intro other member
      rcases List.mem_append.mp member with before | last
      · exact consistent.sorted other before
      · rw [List.mem_singleton.mp last]
        exact sorted

theorem ended_step (h : step runtime s action = some t) (quiet : action ≠ .start)
    (ended : ∀ k, (s.task k).position = .ended) :
    (∀ k, (t.task k).position = .ended) ∧ t.clusterInfo = s.clusterInfo := by
  cases action with
  | updated properties =>
    cases h
    exact ⟨ended, rfl⟩
  | start => exact absurd rfl quiet
  | stop =>
    simp only [step] at h
    split at h <;> cases h
    rename_i k _
    have same : Function.update s.task k (s.task k).cancel = s.task := by
      rw [Task.cancel, ended k]
      exact Function.update_eq_self k s.task
    refine ⟨fun j => ?_, rfl⟩
    change (Function.update s.task k (s.task k).cancel j).position = .ended
    rw [same]
    exact ended j
  | _ => simp [step, ended] at h

end Runs

/-- In every run of the callbacks and the tasks, the provider shows the list that was published last, or none at first,
    and every list is sorted by address; a task publishes at most once more after `stop` has cancelled it, and when
    every task has ended, also by an exception, the list stays the same until the next `start`. -/
theorem cluster_info_published (runtime : Runtime Number) (actions : List (Action Number)) (s : Provider)
    (run : exec (step runtime) Provider.create actions = some s) :
    s.clusterInfo = s.published.getLast?.getD [] ∧ (∀ clusterInfo ∈ s.published, Sorted clusterInfo) ∧
      (∀ k, (s.task k).late ≤ 1) ∧
      ∀ later t, exec (step runtime) s later = some t → (∀ k, (s.task k).position = .ended) →
        (∀ action ∈ later, action ≠ .start) → t.clusterInfo = s.clusterInfo := by
  have consistent : Consistent s :=
    exec_invariant (fun _ _ _ before taken => consistent_step before taken) consistent_create run
  refine ⟨consistent.shown, consistent.sorted, fun k => (consistent.bounded k).once, fun later t ran ended quiet => ?_⟩
  have kept : ∀ (state : Provider) action next,
      ((∀ k, (state.task k).position = .ended) ∧ state.clusterInfo = s.clusterInfo) → action ≠ .start →
      step runtime state action = some next →
      (∀ k, (next.task k).position = .ended) ∧ next.clusterInfo = s.clusterInfo := by
    intro state action next before allowed taken
    obtain ⟨finished, same⟩ := ended_step taken allowed before.1
    exact ⟨finished, same.trans before.2⟩
  exact (meets_invariant kept ⟨ended, rfl⟩ (meets_of_forall s quiet) ran).2

def lastPublication : List (Action Int) :=
  [.updated fun _ => none, .start, .begin' 0, .read 0, .stop, .sleep 0,
    .gather 0 (.ok ⟨["10.0.0.1"], List.nodup_singleton _⟩) (fun _ _ => none), .test 0]

theorem stopped_provider_publishes_once : ∃ s, exec (step plainRuntime) Provider.create lastPublication = some s ∧
    s.future = none ∧ s.clusterInfo = [⟨"10.0.0.1", []⟩] ∧ (s.task 0).late = 1 ∧ (s.task 0).late ≤ 1 ∧
    (s.task 0).position = .ended := by
  have ran : (exec (step plainRuntime) Provider.create lastPublication).map (fun s => (s.future, s.clusterInfo, s.task 0)) =
      some (none, [⟨"10.0.0.1", []⟩], ⟨.ended, true, true, 1⟩) := by decide +kernel
  obtain ⟨s, run, same⟩ := Option.map_eq_some_iff.mp ran
  obtain ⟨future, rest⟩ := Prod.mk.inj same
  obtain ⟨clusterInfo, task⟩ := Prod.mk.inj rest
  refine ⟨s, run, future, clusterInfo, ?_, (cluster_info_published plainRuntime lastPublication s run).2.2.1 0, ?_⟩
  · rw [task]
  · rw [task]

end ClusterInfo
