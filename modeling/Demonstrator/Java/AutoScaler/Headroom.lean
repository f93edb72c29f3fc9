import Demonstrator.Java.AutoScaler.Steady

namespace Coordinator

open Arithmetic

theorem shareSum_one_full_iff (names : List String) (several : 1 < names.length) :
    shareSum names 1 = names.length ↔ ∃ name, names = List.replicate names.length name := by
  have one : (1 : Int32).toNatClampNeg = 1 := rfl
  have small : ∀ value ∈ (names.map names.idxOf).map (share names.length 1), value ≤ 1 := by
    intro value listed
    obtain ⟨index, _, rfl⟩ := List.mem_map.mp listed
    rw [share_one _ _ several]
    split <;> omega
  have full := sum_eq_length_iff _ small
  rw [List.length_map, List.length_map] at full
  rw [shareSum_eq, one, Nat.cast_inj, full]
  obtain ⟨head, rest, rfl⟩ := List.exists_cons_of_ne_nil (List.ne_nil_of_length_pos (by omega : 0 < names.length))
  constructor
  · intro shares
    refine ⟨head, List.eq_replicate_iff.mpr ⟨rfl, ?_⟩⟩
    intro name member
    have share := shares _ (List.mem_map_of_mem (List.mem_map_of_mem member))
    rw [share_one _ _ several] at share
    by_contra other
    have place : (head :: rest).idxOf name ≠ 0 := by
      rw [List.idxOf_cons_ne _ (Ne.symm other)]
      exact Nat.succ_ne_zero _
    rw [if_neg place] at share
    exact absurd share (by decide)
  · intro ⟨name, same⟩ value listed
    obtain ⟨index, place, rfl⟩ := List.mem_map.mp listed
    obtain ⟨other, member, rfl⟩ := List.mem_map.mp place
    have isName : ∀ candidate ∈ head :: rest, candidate = name := (List.eq_replicate_iff.mp same).2
    have first : other = head := (isName other member).trans (isName head (by simp)).symm
    rw [share_one _ _ several, first, List.idxOf_cons_self, if_pos rfl]

namespace KubernetesCoordinator

theorem Settled.getReplicaCount_shareSum {k : KubernetesCoordinator} {type : ServiceType}
    (settled : k.Settled type) (number : Int32) (serves : k.Serves type) (nonnegative : 0 ≤ number)
    (maximum : 0 ≤ k.config.getMaxReplicaCount type) :
    ∃ count, (k.setReplicaCount type number).1.getReplicaCount type = .ok count ∧
      count.toInt = (shareSum (k.config.controllerNames type).names (k.clamped type number)).bmod (2 ^ 32) :=
  ⟨_, settled.getReplicaCount_set number serves nonnegative maximum, toInt_total _⟩

end KubernetesCoordinator

/-- There is room for `relReplicas` more processors. The stub needs it below its maximum. The Kubernetes
    coordinator clamps, so that only the sum itself has to be an int; but it counts a repeated name at
    each of its places. The last case is the wrap-around of the sum to a request for one, which an array
    of one name repeated as often as an array can be long turns into a request for the maximum. -/
def Backend.Headroom (current relReplicas : Int32) : Backend → Prop
  | .stub _ s => current.toInt + relReplicas.toInt ≤ (s.config.getMaxReplicaCount .processor).toInt
  | .kubernetes k =>
    let names := (k.config.controllerNames .processor).names
    let maximum := k.config.getMaxReplicaCount .processor
    current.toInt + relReplicas.toInt < 2 ^ 31 ∧
        shareSum names (min (current + relReplicas) maximum) ≤ maximum.toInt ∨
      2 ^ 31 ≤ current.toInt + relReplicas.toInt ∧ ∃ name, names = List.replicate (2 ^ 31 - 1) name

end Coordinator

namespace AutoScaler

open Arithmetic Coordinator

def AutoScalerImpl.check (scaler : AutoScalerImpl) (b : Backend) (value : ℚ) : AutoScalerImpl × Backend :=
  let (next, request) := scaler.poll ⟨value, b.getReplicaCount .processor⟩
  match request with
  | none => (next, b)
  | some number => (next, (b.setReplicaCount .processor number).1)

theorem check_asking (scaler : AutoScalerImpl) (b : Backend) (value : ℚ) (current relReplicas : Int32)
    (count : b.getReplicaCount .processor = .ok current)
    (asks : (scaler.checkQueue value).2 = some relReplicas) :
    (scaler.check b value).2 = (b.setReplicaCount .processor (newReplicas .processor current relReplicas)).1 := by
  simp only [AutoScalerImpl.check, AutoScalerImpl.poll, asks, count]

theorem asked_le_two {scaler : AutoScalerImpl} {value : ℚ} {rel : Int32}
    (asks : (scaler.checkQueue value).2 = some rel) : rel.toInt ≤ 2 := by
  have bound := (scaler.config.change_bounds
    ((value - scaler.oldValue) / scaler.config.pollInterval.toInt) value).2
  have asked : relReplicas scaler.config ((value - scaler.oldValue) / scaler.config.pollInterval.toInt) value =
      some rel := asks
  rw [AutoScalerConfig.change, asked] at bound
  exact bound

theorem newReplicas_fitting (current relReplicas : Int32) (least : 1 ≤ current) (up : 0 < relReplicas)
    (fits : current.toInt + relReplicas.toInt < 2 ^ 31) :
    newReplicas .processor current relReplicas = current + relReplicas := by
  have one : (1 : Int32).toInt = 1 := rfl
  rw [Int32.le_iff_toInt_le, one] at least
  rw [Int32.lt_iff_toInt_lt, Int32.toInt_zero] at up
  have sum : (current + relReplicas).toInt = current.toInt + relReplicas.toInt :=
    toInt_add_of_range (by omega) fits
  apply Int32.toInt_inj.mp
  simp only [newReplicas, if_true]
  rw [toInt_max, one, sum]
  omega

theorem newReplicas_overflow (current relReplicas : Int32)
    (overflow : 2 ^ 31 ≤ current.toInt + relReplicas.toInt) :
    newReplicas .processor current relReplicas = 1 := by
  have one : (1 : Int32).toInt = 1 := rfl
  have top := current.toInt_lt
  have topChange := relReplicas.toInt_lt
  have sum : (current + relReplicas).toInt = current.toInt + relReplicas.toInt - 2 ^ 32 := by
    rw [Int32.toInt_add, Int.bmod_def]
    omega
  apply Int32.toInt_inj.mp
  simp only [newReplicas, if_true]
  rw [toInt_max, one, sum]
  omega

theorem kubernetes_grows_iff (k : KubernetesCoordinator) (current number : Int32)
    (serves : k.Serves .processor) (settled : k.Settled .processor) (least : 1 ≤ current)
    (room : current < k.config.getMaxReplicaCount .processor) (grows : current < number) :
    (∃ after, (k.setReplicaCount .processor number).1.getReplicaCount .processor = .ok after ∧
        current < after ∧ after ≤ k.config.getMaxReplicaCount .processor) ↔
      shareSum (k.config.controllerNames .processor).names (k.clamped .processor number) ≤
        (k.config.getMaxReplicaCount .processor).toInt := by
  have one : (1 : Int32).toInt = 1 := rfl
  rw [Int32.le_iff_toInt_le, one] at least
  rw [Int32.lt_iff_toInt_lt] at room grows
  have maximum : 0 ≤ k.config.getMaxReplicaCount .processor := toInt_nonneg.mpr (by omega)
  have nonnegative : 0 ≤ number := toInt_nonneg.mpr (by omega)
  have clampedNonneg := k.clamped_nonneg .processor number nonnegative maximum
  have whole : (k.clamped .processor number).toInt =
      min number.toInt (k.config.getMaxReplicaCount .processor).toInt := toInt_min _ _
  have atLeast := le_shareSum _ (k.config.controllerNames .processor).nonempty _ clampedNonneg
  have below := shareSum_lt _ (k.config.controllerNames .processor).nonempty _ clampedNonneg
  have length := (k.config.controllerNames .processor).length_lt
  have top := (k.config.getMaxReplicaCount .processor).toInt_lt
  obtain ⟨count, read, value⟩ := settled.getReplicaCount_shareSum number serves nonnegative maximum
  rw [Int.bmod_def] at value
  simp only [read, Except.ok.injEq, exists_eq_left', Int32.lt_iff_toInt_lt, Int32.le_iff_toInt_le]
  omega

theorem kubernetes_overflow_iff (k : KubernetesCoordinator) (current relReplicas : Int32)
    (serves : k.Serves .processor) (settled : k.Settled .processor)
    (room : current < k.config.getMaxReplicaCount .processor) (small : relReplicas.toInt ≤ 2)
    (overflow : 2 ^ 31 ≤ current.toInt + relReplicas.toInt) :
    (∃ after, (k.setReplicaCount .processor 1).1.getReplicaCount .processor = .ok after ∧
        current < after ∧ after ≤ k.config.getMaxReplicaCount .processor) ↔
      ∃ name, (k.config.controllerNames .processor).names = List.replicate (2 ^ 31 - 1) name := by
  have one : (1 : Int32).toInt = 1 := rfl
  rw [Int32.lt_iff_toInt_lt] at room
  have maximum : 0 ≤ k.config.getMaxReplicaCount .processor := toInt_nonneg.mpr (by omega)
  have top := (k.config.getMaxReplicaCount .processor).toInt_lt
  have whole : k.clamped .processor 1 = 1 := by
    apply clamped_of_le
    rw [Int32.le_iff_toInt_le, one]
    omega
  have atLeast := le_shareSum _ (k.config.controllerNames .processor).nonempty 1 (by decide)
  have below := shareSum_lt _ (k.config.controllerNames .processor).nonempty 1 (by decide)
  have length := (k.config.controllerNames .processor).length_lt
  obtain ⟨count, read, value⟩ := settled.getReplicaCount_shareSum 1 serves (by decide) maximum
  rw [whole, Int.bmod_def] at value
  simp only [read, Except.ok.injEq, exists_eq_left', Int32.lt_iff_toInt_lt, Int32.le_iff_toInt_le]
  have full : shareSum (k.config.controllerNames .processor).names 1 = 2 ^ 31 - 1 ↔
      ∃ name, (k.config.controllerNames .processor).names = List.replicate (2 ^ 31 - 1) name := by
    constructor
    · intro sum
      have longest : (k.config.controllerNames .processor).names.length = 2 ^ 31 - 1 := by omega
      have same := (shareSum_one_full_iff (k.config.controllerNames .processor).names (by omega)).mp (by omega)
      rwa [longest] at same
    · intro ⟨name, same⟩
      have longest : (k.config.controllerNames .processor).names.length = 2 ^ 31 - 1 := by
        rw [same, List.length_replicate]
      have sum := (shareSum_one_full_iff (k.config.controllerNames .processor).names (by omega)).mpr
        ⟨name, by rwa [longest]⟩
      omega
  rw [← full]
  omega

theorem stub_grows_iff (env : StubEnvironment) (s : StubCoordinator) (current relReplicas : Int32)
    (reliable : (Backend.stub env s).Reliable .processor) (count : s.getReplicaCount .processor = current)
    (least : 1 ≤ current) (room : current < s.config.getMaxReplicaCount .processor) (up : 0 < relReplicas) :
    (current < (s.setReplicaCount env .processor (newReplicas .processor current relReplicas)).1.getReplicaCount
          .processor ∧
        (s.setReplicaCount env .processor (newReplicas .processor current relReplicas)).1.getReplicaCount
          .processor ≤ s.config.getMaxReplicaCount .processor) ↔
      current.toInt + relReplicas.toInt ≤ (s.config.getMaxReplicaCount .processor).toInt := by
  obtain ⟨starts, sized⟩ := reliable
  have one : (1 : Int32).toInt = 1 := rfl
  have top := (s.config.getMaxReplicaCount .processor).toInt_lt
  have lowest := Int32.le_iff_toInt_le.mp least
  have below := Int32.lt_iff_toInt_lt.mp room
  have positive := Int32.lt_iff_toInt_lt.mp up
  rw [Int32.toInt_zero] at positive
  by_cases overflow : 2 ^ 31 ≤ current.toInt + relReplicas.toInt
  · have within : 1 ≤ s.config.getMaxReplicaCount .processor := by
      rw [Int32.le_iff_toInt_le]
      omega
    rw [newReplicas_overflow current relReplicas overflow,
      StubCoordinator.getReplicaCount_set_within env starts s .processor 1 sized (by decide) within,
      Int32.lt_iff_toInt_lt]
    omega
  · have sum : (current + relReplicas).toInt = current.toInt + relReplicas.toInt :=
      toInt_add_of_range (by omega) (by omega)
    rw [newReplicas_fitting current relReplicas least up (by omega)]
    by_cases within : current + relReplicas ≤ s.config.getMaxReplicaCount .processor
    · have nonnegative : 0 ≤ current + relReplicas := toInt_nonneg.mpr (by omega)
      rw [StubCoordinator.getReplicaCount_set_within env starts s .processor _ sized nonnegative within,
        Int32.lt_iff_toInt_lt, Int32.le_iff_toInt_le]
      omega
    · rw [StubCoordinator.set_outside env s .processor _ (.inr (Int32.not_le.mp within)), count,
        Int32.lt_iff_toInt_lt]
      rw [Int32.le_iff_toInt_le] at within
      omega

/-- A check that asks for more processors below the maximum gets some, exactly when the step fits. -/
theorem scaling_up_uses_headroom_iff (scaler : AutoScalerImpl) (b : Backend) (value : ℚ)
    (current relReplicas : Int32) (reliable : b.Reliable .processor) (settled : b.Settled .processor)
    (count : b.getReplicaCount .processor = .ok current) (least : 1 ≤ current)
    (room : current < b.getMaxReplicaCount .processor)
    (asks : (scaler.checkQueue value).2 = some relReplicas) (up : 0 < relReplicas) :
    (∃ after, (scaler.check b value).2.getReplicaCount .processor = .ok after ∧ current < after ∧
        after ≤ b.getMaxReplicaCount .processor) ↔
      b.Headroom current relReplicas := by
  rw [check_asking scaler b value current relReplicas count asks]
  cases b with
  | stub env s =>
    have counted : s.getReplicaCount .processor = current := Except.ok.inj count
    have grows := stub_grows_iff env s current relReplicas reliable counted least room up
    simp only [Backend.setReplicaCount, Backend.getReplicaCount, Except.ok.injEq, exists_eq_left']
    exact grows
  | kubernetes k =>
    have positive := Int32.lt_iff_toInt_lt.mp up
    rw [Int32.toInt_zero] at positive
    by_cases overflow : 2 ^ 31 ≤ current.toInt + relReplicas.toInt
    · have grows := kubernetes_overflow_iff k current relReplicas reliable settled room (asked_le_two asks) overflow
      rw [newReplicas_overflow current relReplicas overflow]
      simp only [Backend.Headroom, overflow, not_lt.mpr overflow, false_and, false_or, true_and]
      exact grows
    · have fits := not_le.mp overflow
      have one : (1 : Int32).toInt = 1 := rfl
      have lowest := Int32.le_iff_toInt_le.mp least
      have sum : (current + relReplicas).toInt = current.toInt + relReplicas.toInt :=
        toInt_add_of_range (by omega) fits
      have larger : current < current + relReplicas := by
        rw [Int32.lt_iff_toInt_lt]
        omega
      have grows := kubernetes_grows_iff k current (current + relReplicas) reliable settled least room larger
      rw [newReplicas_fitting current relReplicas least up fits]
      simp only [Backend.Headroom, fits, not_le.mpr fits, false_and, or_false, true_and]
      exact grows

def almostFull : StubCoordinator where
  config := .default
  services type := if type = .processor then (List.range 7).map (⟨.processor, ·⟩) else []
  created := 7
  drawn := 0

def startingAlways : StubEnvironment := ⟨fun _ => true, fun _ => true⟩

def fillingScaler : AutoScalerImpl := .create .default

theorem scaling_up_uses_headroom_rising :
    ∃ after, (fillingScaler.check (.stub startingAlways almostFull) 40).2.getReplicaCount .processor = .ok after ∧
      7 < after ∧ after ≤ 8 :=
  (scaling_up_uses_headroom_iff fillingScaler (.stub startingAlways almostFull) 40 7 1
    ⟨fun _ => rfl, by decide⟩ True.intro (by decide) (by decide) (by decide) (by decide +kernel) (by decide)).mpr
    (by decide : (7 : Int32).toInt + (1 : Int32).toInt ≤ 8)

/-- With seven of eight processors running, a steep rise asks for two more, which the stub rejects:
    the overloaded system stays at seven. -/
theorem scaling_up_rejected :
    (Backend.stub startingAlways almostFull).getReplicaCount .processor = .ok 7 ∧
      (Backend.stub startingAlways almostFull).getMaxReplicaCount .processor = 8 ∧
      (fillingScaler.checkQueue 80).2 = some 2 ∧
      (fillingScaler.check (.stub startingAlways almostFull) 80).2.getReplicaCount .processor = .ok 7 := by
  refine ⟨by decide, by decide, ?_, ?_⟩
  · decide +kernel
  · decide +kernel

end AutoScaler
