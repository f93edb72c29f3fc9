import Demonstrator.Java.Coordinator.Scaling

namespace Coordinator

structure ScaleRequest where
  ns : String
  rcName : String
  replicas : Int32
  deriving DecidableEq, Repr

def scaleRequests (ns : String) (rcNames : List String) (newReplicaCountSum : Int32) :
    List String → Cluster → List ScaleRequest
  | [], _ => []
  | rcName :: later, c =>
    match c.getReplicationController ns rcName with
    | none => []
    | some rc =>
      let newReplicaCount := getNewReplicaCount rcNames rc.name newReplicaCountSum
      let rest := scaleRequests ns rcNames newReplicaCountSum later
        (scaleController ns rcNames newReplicaCountSum c rc)
      if rc.replicas.status ≠ newReplicaCount then ⟨ns, rc.name, newReplicaCount⟩ :: rest else rest

def Cluster.accept (c : Cluster) (request : ScaleRequest) : Cluster :=
  c.scale request.ns request.rcName request.replicas

theorem scaleControllers_requests (ns : String) (rcNames : List String) (replicaSum : Int32)
    (arrivals : List String) (c : Cluster) :
    scaleControllers ns rcNames replicaSum arrivals c =
      (scaleRequests ns rcNames replicaSum arrivals c).foldl Cluster.accept c := by
  induction arrivals generalizing c with
  | nil => rfl
  | cons rcName later ih =>
    simp only [scaleControllers, scaleRequests]
    cases c.getReplicationController ns rcName with
    | none => rfl
    | some rc =>
      simp only
      rw [ih]
      split
      · rename_i outdated
        simp [scaleController, outdated, Cluster.accept]
      · rename_i current
        simp [scaleController, current]

def Cluster.answered (c : Cluster) (ns : String) (arrivals : List String) : List String :=
  arrivals.takeWhile fun rcName => (c.controllers ns rcName).isSome

def Cluster.outdated (c : Cluster) (ns : String) (rcNames : List String) (replicaSum : Int32)
    (arrivals : List String) : List (String × Int32) :=
  ((c.answered ns arrivals).map fun rcName => (rcName, getNewReplicaCount rcNames rcName replicaSum)).filter
    fun entry => c.status ns entry.1 ≠ entry.2

theorem answered_scaleController (ns : String) (rcNames : List String) (replicaSum : Int32) (c : Cluster)
    (rc : ReplicationController) (arrivals : List String) :
    (scaleController ns rcNames replicaSum c rc).answered ns arrivals = c.answered ns arrivals := by
  unfold scaleController Cluster.answered
  dsimp only
  split
  · simp only [Cluster.scale_present]
  · rfl

theorem outdated_scaleController (ns : String) (rcNames : List String) (replicaSum : Int32) (c : Cluster)
    (rc : ReplicationController) (arrivals : List String) :
    (scaleController ns rcNames replicaSum c rc).outdated ns rcNames replicaSum arrivals =
      c.outdated ns rcNames replicaSum arrivals := by
  simp only [Cluster.outdated, answered_scaleController, scaleController_status]

theorem scaleRequests_outdated (ns : String) (rcNames : List String) (replicaSum : Int32)
    (arrivals : List String) (c : Cluster) :
    scaleRequests ns rcNames replicaSum arrivals c =
      (c.outdated ns rcNames replicaSum arrivals).map fun entry => ⟨ns, entry.1, entry.2⟩ := by
  induction arrivals generalizing c with
  | nil => rfl
  | cons rcName later ih =>
    simp only [scaleRequests]
    cases found : c.controllers ns rcName with
    | none => simp [Cluster.getReplicationController, Cluster.outdated, Cluster.answered, found]
    | some replicas =>
      have status : c.status ns rcName = replicas.status := by simp [Cluster.status, found]
      simp only [Cluster.getReplicationController, found, Option.map_some]
      rw [ih, outdated_scaleController]
      split
      · rename_i differs
        simp [Cluster.outdated, Cluster.answered, found, status, differs]
      · rename_i same
        have equal := not_not.mp same
        simp [Cluster.outdated, Cluster.answered, found, status, equal]

theorem mem_scaleRequests (ns : String) (rcNames : List String) (replicaSum : Int32) (arrivals : List String)
    (c : Cluster) (rcName : String) (count : Int32) :
    ⟨ns, rcName, count⟩ ∈ scaleRequests ns rcNames replicaSum arrivals c ↔
      rcName ∈ c.answered ns arrivals ∧ getNewReplicaCount rcNames rcName replicaSum = count ∧
        c.status ns rcName ≠ count := by
  simp only [scaleRequests_outdated, Cluster.outdated, List.mem_map, List.mem_filter, decide_eq_true_eq]
  constructor
  · intro ⟨entry, ⟨⟨name, answered, listed⟩, outdated⟩, request⟩
    subst listed
    simp only [ScaleRequest.mk.injEq, true_and] at request
    obtain ⟨rfl, rfl⟩ := request
    exact ⟨answered, rfl, outdated⟩
  · intro ⟨answered, share, outdated⟩
    exact ⟨(rcName, count), ⟨⟨rcName, answered, by rw [share]⟩, outdated⟩, rfl⟩

theorem share_of_request {ns : String} {rcNames : List String} {first second : Int32} {arrivals : List String}
    {c : Cluster} (same : scaleRequests ns rcNames first arrivals c = scaleRequests ns rcNames second arrivals c)
    {rcName : String} (answered : rcName ∈ c.answered ns arrivals)
    (outdated : c.status ns rcName ≠ getNewReplicaCount rcNames rcName first) :
    getNewReplicaCount rcNames rcName first = getNewReplicaCount rcNames rcName second := by
  have sent := (mem_scaleRequests ns rcNames first arrivals c rcName _).mpr ⟨answered, rfl, outdated⟩
  rw [same] at sent
  exact ((mem_scaleRequests ns rcNames second arrivals c rcName _).mp sent).2.1.symm

/-- Two sums send the same requests just if they give every controller that answers the same share:
    the status of a controller cannot be up to date for two different shares. -/
theorem scaleRequests_eq_iff (ns : String) (rcNames : List String) (first second : Int32)
    (arrivals : List String) (c : Cluster) :
    scaleRequests ns rcNames first arrivals c = scaleRequests ns rcNames second arrivals c ↔
      ∀ rcName ∈ c.answered ns arrivals,
        getNewReplicaCount rcNames rcName first = getNewReplicaCount rcNames rcName second := by
  constructor
  · intro same rcName answered
    by_cases current : c.status ns rcName = getNewReplicaCount rcNames rcName first
    · by_cases settled : c.status ns rcName = getNewReplicaCount rcNames rcName second
      · exact current.symm.trans settled
      · exact (share_of_request same.symm answered settled).symm
    · exact share_of_request same answered current
  · intro shares
    have counts : (c.answered ns arrivals).map (fun rcName => (rcName, getNewReplicaCount rcNames rcName first)) =
        (c.answered ns arrivals).map fun rcName => (rcName, getNewReplicaCount rcNames rcName second) := by
      apply List.map_congr_left
      intro rcName answered
      rw [shares rcName answered]
    rw [scaleRequests_outdated, scaleRequests_outdated, Cluster.outdated, Cluster.outdated, counts]

theorem map_request_eq_iff (ns ns' : String) (first second : List (String × Int32)) :
    first.map (fun entry => (⟨ns, entry.1, entry.2⟩ : ScaleRequest)) =
        second.map (fun entry => ⟨ns', entry.1, entry.2⟩) ↔
      first = second ∧ (first = [] ∨ ns = ns') := by
  induction first generalizing second with
  | nil => cases second <;> simp
  | cons entry rest ih =>
    cases second with
    | nil => simp
    | cons entry' rest' =>
      simp only [List.map_cons, List.cons.injEq, ScaleRequest.mk.injEq, ih rest', reduceCtorEq, false_or]
      constructor
      · intro ⟨⟨namespaces, names, counts⟩, rests, _⟩
        exact ⟨⟨Prod.ext names counts, rests⟩, namespaces⟩
      · intro ⟨⟨entries, rests⟩, namespaces⟩
        subst entries
        exact ⟨⟨namespaces, rfl, rfl⟩, rests, .inr namespaces⟩

end Coordinator
