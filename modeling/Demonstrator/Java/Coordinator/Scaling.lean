import Demonstrator.Java.Coordinator.Kubernetes
import Mathlib.Algebra.BigOperators.Ring.Finset

namespace Coordinator

open Arithmetic

def controllerShare (names : List String) (replicaSum : Int32) (name : String) : Int32 :=
  Int32.ofNat (share names.length replicaSum.toNatClampNeg (names.idxOf name))

theorem controllerShare_toInt (names : List String) (replicaSum : Int32) (name : String) :
    (controllerShare names replicaSum name).toInt =
      share names.length replicaSum.toNatClampNeg (names.idxOf name) := by
  apply Int32.toInt_ofNat_of_lt
  have bound := replicaSum.toNatClampNeg_lt
  have part := share_le names.length replicaSum.toNatClampNeg (names.idxOf name)
  omega

theorem remainder_share_toInt (remaining index : Int32) (low : 0 ≤ index.toInt) (rest : 0 ≤ remaining.toInt) :
    (min 1 (max 0 (remaining - index)) : Int32).toInt = if index.toInt < remaining.toInt then 1 else 0 := by
  have highRemaining := remaining.toInt_lt
  have highIndex := index.toInt_lt
  have difference : (remaining - index).toInt = remaining.toInt - index.toInt := by
    rw [toInt_sub_of_range] <;> omega
  have one : (1 : Int32).toInt = 1 := rfl
  rw [toInt_min, toInt_max, difference, Int32.toInt_zero, one]
  split <;> omega

theorem getNewReplicaCount_share (names : List String) (length : names.length < 2 ^ 31)
    (replicaSum : Int32) (nonnegative : 0 ≤ replicaSum) (name : String) (member : name ∈ names) :
    getNewReplicaCount names name replicaSum = controllerShare names replicaSum name := by
  have low := toInt_nonneg.mp nonnegative
  have top := replicaSum.toInt_lt
  have place : names.idxOf name < names.length := List.idxOf_lt_length_of_mem member
  have parts : (Int32.ofNat names.length).toInt = names.length := Int32.toInt_ofNat_of_lt length
  have index : (indexOf names name).toInt = names.idxOf name := by
    rw [indexOf, if_pos member]
    exact Int32.toInt_ofNat_of_lt (by omega)
  have whole : (replicaSum.toNatClampNeg : Int) = replicaSum.toInt := Int.toNat_of_nonneg low
  have notMinusOne : Int32.ofNat names.length ≠ -1 := by
    intro same
    rw [same] at parts
    have negative : (-1 : Int32).toInt = -1 := rfl
    omega
  have quotient : (replicaSum / Int32.ofNat names.length).toInt =
      ((replicaSum.toNatClampNeg / names.length : Nat) : Int) := by
    rw [Int32.toInt_div_of_ne_right _ _ notMinusOne, parts, Int.tdiv_eq_ediv_of_nonneg low, ← whole]
    rfl
  have remaining : (replicaSum % Int32.ofNat names.length).toInt =
      ((replicaSum.toNatClampNeg % names.length : Nat) : Int) := by
    rw [Int32.toInt_mod, parts, Int.tmod_eq_emod_of_nonneg low, ← whole]
    rfl
  have extra : (min 1 (max 0 (replicaSum % Int32.ofNat names.length - indexOf names name)) : Int32).toInt =
      ((if names.idxOf name < replicaSum.toNatClampNeg % names.length then 1 else 0 : Nat) : Int) := by
    rw [remainder_share_toInt _ _ (by omega) (by omega), remaining, index]
    simp only [Nat.cast_lt, Nat.cast_ite, Nat.cast_one, Nat.cast_zero]
  have part := share_le names.length replicaSum.toNatClampNeg (names.idxOf name)
  have value := controllerShare_toInt names replicaSum name
  unfold share at part value
  have wholeBound := replicaSum.toNatClampNeg_lt
  apply Int32.toInt_inj.mp
  rw [value, getNewReplicaCount, toInt_add_of_range]
  · rw [quotient, extra]
    exact (Nat.cast_add _ _).symm
  · rw [quotient, extra]
    generalize replicaSum.toNatClampNeg / names.length = base
    omega
  · rw [quotient, extra]
    generalize replicaSum.toNatClampNeg / names.length = base at part ⊢
    omega

/-- What the names of the array are given together, a repeated name at each of its places. -/
def shareSum (names : List String) (replicaSum : Int32) : Int :=
  ((names.map (controllerShare names replicaSum)).map Int32.toInt).sum

theorem shareSum_eq (names : List String) (replicaSum : Int32) :
    shareSum names replicaSum =
      ((names.map names.idxOf).map (share names.length replicaSum.toNatClampNeg)).sum := by
  rw [shareSum, Nat.cast_list_sum, List.map_map, List.map_map, List.map_map]
  congr 1
  apply List.map_congr_left
  intro name _
  exact controllerShare_toInt names replicaSum name

theorem sum_controllerShare (names : List String) (nonempty : names ≠ []) (distinct : names.Nodup)
    (replicaSum : Int32) (nonnegative : 0 ≤ replicaSum) : shareSum names replicaSum = replicaSum.toInt := by
  have places : names.map names.idxOf = List.range names.length := by
    apply List.ext_getElem
    · simp
    · intro i low _
      simp only [List.getElem_map, List.getElem_range]
      exact distinct.idxOf_getElem i (by simpa using low)
  have whole : (replicaSum.toNatClampNeg : Int) = replicaSum.toInt :=
    Int.toNat_of_nonneg (toInt_nonneg.mp nonnegative)
  rw [shareSum_eq, places, sum_share _ _ (List.length_pos_of_ne_nil nonempty), whole]

/-- A repeated name counts at its first place, so the shares add up to the whole at least. -/
theorem le_shareSum (names : List String) (nonempty : names ≠ []) (replicaSum : Int32)
    (nonnegative : 0 ≤ replicaSum) : replicaSum.toInt ≤ shareSum names replicaSum := by
  have places : names.map names.idxOf = (List.finRange names.length).map fun i => names.idxOf (names.get i) := by
    apply List.ext_getElem
    · simp
    · intro i _ _
      simp
  have earlier : ∀ i : Fin names.length, names.idxOf (names.get i) ≤ i := by
    intro i
    by_contra later
    have other := List.not_of_lt_findIdx (not_le.mp later)
    simp at other
  have parts := le_sum_share_earlier names.length replicaSum.toNatClampNeg (List.length_pos_of_ne_nil nonempty)
    (fun i => names.idxOf (names.get i)) earlier
  have whole : (replicaSum.toNatClampNeg : Int) = replicaSum.toInt :=
    Int.toNat_of_nonneg (toInt_nonneg.mp nonnegative)
  rw [shareSum_eq, places, List.map_map, ← whole]
  exact_mod_cast parts

theorem shareSum_lt (names : List String) (nonempty : names ≠ []) (replicaSum : Int32)
    (nonnegative : 0 ≤ replicaSum) : shareSum names replicaSum < replicaSum.toInt + names.length := by
  have bound := sum_share_lt replicaSum.toNatClampNeg (names.map names.idxOf) (by simpa using nonempty)
  have whole : (replicaSum.toNatClampNeg : Int) = replicaSum.toInt :=
    Int.toNat_of_nonneg (toInt_nonneg.mp nonnegative)
  rw [List.length_map] at bound
  rw [shareSum_eq, ← whole]
  exact_mod_cast bound

theorem total_controllerShare (names : List String) (nonempty : names ≠ []) (distinct : names.Nodup)
    (replicaSum : Int32) (nonnegative : 0 ≤ replicaSum) :
    total (names.map (controllerShare names replicaSum)) = replicaSum := by
  have values := sum_controllerShare names nonempty distinct replicaSum nonnegative
  have low := replicaSum.le_toInt
  have high := replicaSum.toInt_lt
  apply Int32.toInt_inj.mp
  unfold shareSum at values
  rw [toInt_total_of_range _ (by omega) (by omega), values]

namespace Cluster

def spec (c : Cluster) (ns name : String) : Int32 := ((c.controllers ns name).map Replicas.spec).getD 0

def status (c : Cluster) (ns name : String) : Int32 := ((c.controllers ns name).map Replicas.status).getD 0

def Skips (c : Cluster) (ns : String) (names : List String) (replicaSum : Int32) (name : String) : Prop :=
  c.status ns name = controllerShare names replicaSum name

instance (c : Cluster) (ns : String) (names : List String) (replicaSum : Int32) :
    DecidablePred (c.Skips ns names replicaSum) :=
  fun _ => inferInstanceAs (Decidable (_ = _))

theorem Serves.present {c : Cluster} {ns : String} {names : List String} (serves : c.Serves ns names)
    {name : String} (member : name ∈ names) :
    c.controllers ns name = some ⟨c.spec ns name, c.status ns name⟩ := by
  obtain ⟨replicas, present⟩ := Option.isSome_iff_exists.mp (serves name member).1
  simp [spec, status, present]

@[simp] theorem scale_scalable (c : Cluster) (ns name : String) (count : Int32) :
    (c.scale ns name count).scalable = c.scalable := by
  unfold scale
  split <;> rfl

theorem scale_status (c : Cluster) (ns name ns' name' : String) (count : Int32) :
    (c.scale ns name count).status ns' name' = c.status ns' name' := by
  unfold scale
  split
  · by_cases same : ns' = ns ∧ name' = name
    · obtain ⟨rfl, rfl⟩ := same
      cases found : c.controllers ns' name' <;> simp [status, found]
    · simp [status, same]
  · rfl

theorem scale_present (c : Cluster) (ns name ns' name' : String) (count : Int32) :
    ((c.scale ns name count).controllers ns' name').isSome = (c.controllers ns' name').isSome := by
  unfold scale
  split
  · by_cases same : ns' = ns ∧ name' = name
    · simp [same]
    · simp [same]
  · rfl

theorem scale_spec (c : Cluster) (ns name name' : String) (count : Int32)
    (present : (c.controllers ns name).isSome) (scalable : c.scalable ns name = true) :
    (c.scale ns name count).spec ns name' = if name' = name then count else c.spec ns name' := by
  obtain ⟨replicas, found⟩ := Option.isSome_iff_exists.mp present
  by_cases same : name' = name
  · subst same
    simp [scale, scalable, spec, found]
  · simp [scale, scalable, spec, same]

end Cluster

theorem scaleController_serves {ns ns' : String} {rcNames names : List String} {replicaSum : Int32}
    {c : Cluster} {rc : ReplicationController} (serves : c.Serves ns' names) :
    (scaleController ns rcNames replicaSum c rc).Serves ns' names := by
  unfold scaleController
  dsimp only
  split
  · intro name member
    rw [Cluster.scale_present, Cluster.scale_scalable]
    exact serves name member
  · exact serves

theorem scaleController_status (ns ns' name' : String) (rcNames : List String) (replicaSum : Int32)
    (c : Cluster) (rc : ReplicationController) :
    (scaleController ns rcNames replicaSum c rc).status ns' name' = c.status ns' name' := by
  unfold scaleController
  dsimp only
  split
  · exact Cluster.scale_status ..
  · rfl

theorem scaleController_spec (ns : String) (rcNames : ControllerNames) (replicaSum : Int32)
    (nonnegative : 0 ≤ replicaSum) (c : Cluster) (name : String) (member : name ∈ rcNames.names)
    (serves : c.Serves ns rcNames.names) (name' : String) :
    (scaleController ns rcNames.names replicaSum c ⟨name, ⟨c.spec ns name, c.status ns name⟩⟩).spec ns name' =
      if name' = name ∧ ¬ c.Skips ns rcNames.names replicaSum name' then
        controllerShare rcNames.names replicaSum name'
      else c.spec ns name' := by
  have share := getNewReplicaCount_share rcNames.names rcNames.length_lt replicaSum nonnegative name member
  simp only [scaleController, share, ne_eq]
  by_cases skips : c.status ns name = controllerShare rcNames.names replicaSum name
  · have kept : ¬ (name' = name ∧ ¬ c.Skips ns rcNames.names replicaSum name') := by
      intro scaled
      obtain ⟨rfl, scales⟩ := scaled
      exact scales skips
    simp only [skips, not_true_eq_false, if_false, kept]
  · simp only [skips, not_false_eq_true, if_true]
    rw [Cluster.scale_spec c ns name name' _ (serves name member).1 (serves name member).2]
    by_cases same : name' = name
    · subst same
      simp [Cluster.Skips, skips]
    · simp [same]

theorem scaleControllers_spec (ns : String) (rcNames : ControllerNames) (replicaSum : Int32)
    (nonnegative : 0 ≤ replicaSum) (arrivals : List String) (known : ∀ name ∈ arrivals, name ∈ rcNames.names)
    (c : Cluster) (serves : c.Serves ns rcNames.names) (name' : String) :
    (scaleControllers ns rcNames.names replicaSum arrivals c).spec ns name' =
      if name' ∈ arrivals ∧ ¬ c.Skips ns rcNames.names replicaSum name' then
        controllerShare rcNames.names replicaSum name'
      else c.spec ns name' := by
  induction arrivals generalizing c with
  | nil => simp [scaleControllers]
  | cons name later ih =>
    have member := known name (by simp)
    have first := scaleController_spec ns rcNames replicaSum nonnegative c name member serves name'
    have arrived : c.getReplicationController ns name =
        some ⟨name, ⟨c.spec ns name, c.status ns name⟩⟩ := by
      simp [Cluster.getReplicationController, serves.present member]
    simp only [scaleControllers, arrived]
    rw [ih (fun other present => known other (by simp [present])) _ (scaleController_serves serves), first]
    simp only [Cluster.Skips, scaleController_status, List.mem_cons]
    by_cases skips : c.status ns name' = controllerShare rcNames.names replicaSum name'
    · simp [skips]
    · by_cases same : name' = name
      · subst same
        simp [skips]
      · simp [skips, same]

theorem scaleControllers_serves (ns ns' : String) (rcNames names : List String) (replicaSum : Int32)
    (arrivals : List String) (c : Cluster) (serves : c.Serves ns' names) :
    (scaleControllers ns rcNames replicaSum arrivals c).Serves ns' names := by
  induction arrivals generalizing c with
  | nil => exact serves
  | cons name later ih =>
    unfold scaleControllers
    split
    · exact serves
    · exact ih _ (scaleController_serves serves)

theorem sumReplicas_served (c : Cluster) (ns : String) (names : List String) (serves : c.Serves ns names) :
    sumReplicas c ns names = .ok (total (names.map (c.spec ns))) := by
  have found : names.mapM (fun name => c.getReplicationController ns name) =
      some (names.map fun name => ⟨name, ⟨c.spec ns name, c.status ns name⟩⟩) := by
    induction names with
    | nil => rfl
    | cons name rest ih =>
      have later : c.Serves ns rest := fun other member => serves other (by simp [member])
      rw [List.mapM_cons, ih later, Cluster.getReplicationController, serves.present (by simp)]
      rfl
  simp only [sumReplicas, found, List.map_map]
  rfl

end Coordinator
