import Demonstrator.Java.Coordinator.SetThenGet
import Demonstrator.Java.Coordinator.Stub

namespace Coordinator

open Arithmetic

/-- The documented contract of `setReplicaCount` at one call: requests out of range are ignored,
    others are carried out, and the answer is whether the count changed. -/
def MeetsContract {State : Type} (service : CoordinatorService State) (s : State) (type : ServiceType)
    (number : Int32) : Prop :=
  ∃ before after,
    service.getReplicaCount s type = .ok before ∧
    service.getReplicaCount (service.setReplicaCount s type number).1 type = .ok after ∧
    (number < 0 ∨ service.getMaxReplicaCount s type < number → after = before) ∧
    (0 ≤ number → number ≤ service.getMaxReplicaCount s type → after = number) ∧
    ((service.setReplicaCount s type number).2 = true ↔ after ≠ before)

theorem stub_meets_contract (env : StubEnvironment) (starts : ∀ ba, env.starts ba = true) (s : StubCoordinator)
    (type : ServiceType) (number : Int32)
    (sized : ((s.services type).length : Int) ≤ (s.config.getMaxReplicaCount type).toInt) :
    MeetsContract (StubCoordinator.service env) s type number := by
  by_cases within : 0 ≤ number ∧ number ≤ s.config.getMaxReplicaCount type
  · obtain ⟨low, high⟩ := within
    have after := StubCoordinator.getReplicaCount_set_within env starts s type number sized low high
    have answer := StubCoordinator.set_answer env s type number low high
    have inside : number < 0 ∨ s.config.getMaxReplicaCount type < number →
        number = s.getReplicaCount type := by
      intro outside
      rcases outside with negative | beyond
      · exact absurd negative (Int32.not_lt.mpr low)
      · exact absurd beyond (Int32.not_lt.mpr high)
    exact ⟨s.getReplicaCount type, number, rfl, congrArg Except.ok after, inside, fun _ _ => rfl, answer⟩
  · have kept := StubCoordinator.set_outside env s type number (outside_of_not_within within)
    have count : (s.setReplicaCount env type number).1.getReplicaCount type = s.getReplicaCount type := by
      rw [kept]
    have answer : (s.setReplicaCount env type number).2 = true ↔
        s.getReplicaCount type ≠ s.getReplicaCount type := by
      rw [kept]
      simp
    exact ⟨_, _, rfl, congrArg Except.ok count, fun _ => rfl, fun low high => absurd ⟨low, high⟩ within, answer⟩

namespace KubernetesCoordinator

def Settled (k : KubernetesCoordinator) (type : ServiceType) : Prop :=
  ∀ name ∈ (k.config.controllerNames type).names,
    k.cluster.status k.config.k8sNamespace name = k.cluster.spec k.config.k8sNamespace name

theorem Settled.getReplicaCount_set {k : KubernetesCoordinator} {type : ServiceType} (settled : k.Settled type)
    (number : Int32) (serves : k.Serves type) (nonnegative : 0 ≤ number)
    (maximum : 0 ≤ k.config.getMaxReplicaCount type) :
    (k.setReplicaCount type number).1.getReplicaCount type =
      .ok (total ((k.config.controllerNames type).names.map
        (controllerShare (k.config.controllerNames type).names (k.clamped type number)))) := by
  rw [KubernetesCoordinator.getReplicaCount_set k type number serves nonnegative maximum]
  apply congrArg Except.ok
  apply congrArg total
  apply List.map_congr_left
  intro name member
  by_cases skips : k.cluster.Skips k.config.k8sNamespace (k.config.controllerNames type).names
    (k.clamped type number) name
  · rw [if_pos skips, ← settled name member]
    exact skips
  · rw [if_neg skips]

theorem Settled.addsUp {k : KubernetesCoordinator} {type : ServiceType} (settled : k.Settled type)
    (number : Int32) (distinct : (k.config.controllerNames type).names.Nodup) (serves : k.Serves type)
    (nonnegative : 0 ≤ number) (maximum : 0 ≤ k.config.getMaxReplicaCount type) : k.AddsUp type number := by
  have count := settled.getReplicaCount_set number serves nonnegative maximum
  have whole := total_controllerShare _ (k.config.controllerNames type).nonempty distinct _
    (k.clamped_nonneg type number nonnegative maximum)
  rw [whole] at count
  exact (k.getReplicaCount_set_clamped_iff type number serves nonnegative maximum).mp count

end KubernetesCoordinator

/-- The requests for which a settled Kubernetes coordinator keeps the contract: a real change to the
    sum of the shares, or one that its clamp turns into no change. In an array of distinct names the
    shares always add up. -/
def ChangesOrIgnored (names : List String) (number current maximum : Int32) : Prop :=
  number < 0 ∨
    (0 ≤ number ∧ number ≤ maximum ∧ number ≠ current ∧ total (names.map (controllerShare names number)) = number) ∨
    (maximum < number ∧ total (names.map (controllerShare names maximum)) = current)

theorem clamped_of_le (k : KubernetesCoordinator) (type : ServiceType) (number : Int32)
    (within : number ≤ k.config.getMaxReplicaCount type) : k.clamped type number = number := by
  apply Int32.toInt_inj.mp
  rw [KubernetesCoordinator.clamped, toInt_min]
  rw [Int32.le_iff_toInt_le] at within
  omega

theorem clamped_of_lt (k : KubernetesCoordinator) (type : ServiceType) (number : Int32)
    (beyond : k.config.getMaxReplicaCount type < number) :
    k.clamped type number = k.config.getMaxReplicaCount type := by
  apply Int32.toInt_inj.mp
  rw [KubernetesCoordinator.clamped, toInt_min]
  rw [Int32.lt_iff_toInt_lt] at beyond
  omega

theorem kubernetes_meets_contract_iff (k : KubernetesCoordinator) (type : ServiceType) (number current : Int32)
    (serves : k.Serves type) (settled : k.Settled type)
    (maximum : 0 ≤ k.config.getMaxReplicaCount type) (count : k.getReplicaCount type = .ok current) :
    MeetsContract KubernetesCoordinator.service k type number ↔
      ChangesOrIgnored (k.config.controllerNames type).names number current
        (k.config.getMaxReplicaCount type) := by
  by_cases negative : number < 0
  · have ignored := k.set_negative type number negative
    have after : (k.setReplicaCount type number).1.getReplicaCount type = .ok current := by
      rw [ignored]
      exact count
    have answer : (k.setReplicaCount type number).2 = true ↔ current ≠ current := by
      rw [ignored]
      simp
    have holds : MeetsContract KubernetesCoordinator.service k type number :=
      ⟨current, current, count, after, fun _ => rfl, fun low _ => absurd negative (Int32.not_lt.mpr low), answer⟩
    exact ⟨fun _ => .inl negative, fun _ => holds⟩
  · have low : 0 ≤ number := Int32.not_lt.mp negative
    have after := settled.getReplicaCount_set number serves low maximum
    have answer : (k.setReplicaCount type number).2 = (k.clamped type number == number) := by
      rw [k.set_nonneg type number low]
    generalize sum : total ((k.config.controllerNames type).names.map
      (controllerShare (k.config.controllerNames type).names (k.clamped type number))) = shared at after
    have contract : MeetsContract KubernetesCoordinator.service k type number ↔
        (k.config.getMaxReplicaCount type < number → shared = current) ∧
        (number ≤ k.config.getMaxReplicaCount type → shared = number) ∧
        (k.clamped type number = number ↔ shared ≠ current) := by
      simp only [MeetsContract, KubernetesCoordinator.service, count, after, answer, Except.ok.injEq,
        exists_and_left, exists_eq_left', negative, false_or, low, true_imp_iff, beq_iff_eq]
    rw [contract]
    by_cases within : number ≤ k.config.getMaxReplicaCount type
    · have notBeyond : ¬ k.config.getMaxReplicaCount type < number := Int32.not_lt.mpr within
      rw [clamped_of_le k type number within] at sum ⊢
      simp only [ChangesOrIgnored, negative, low, within, notBeyond, sum, false_implies, true_and, false_or,
        false_and, or_false, forall_const, true_iff]
      constructor
      · intro kept
        exact ⟨kept.1 ▸ kept.2, kept.1⟩
      · intro changed
        exact ⟨changed.2, changed.2 ▸ changed.1⟩
    · have beyond : k.config.getMaxReplicaCount type < number := Int32.not_le.mp within
      have different : k.config.getMaxReplicaCount type ≠ number := by
        intro same
        rw [same] at within
        exact within (Int32.le_refl number)
      rw [clamped_of_lt k type number beyond] at sum ⊢
      simp only [ChangesOrIgnored, negative, low, within, beyond, different, sum, false_implies, true_and, false_or,
        false_and, and_false, forall_const, false_iff, not_not, ne_eq, and_self]

/-- Both coordinators keep the documented contract, and so agree, exactly at the requests of
    `ChangesOrIgnored`; the stub alone keeps it at all of them. -/
theorem coordinators_meet_contract_iff (env : StubEnvironment) (starts : ∀ ba, env.starts ba = true)
    (stub : StubCoordinator) (k : KubernetesCoordinator) (type : ServiceType) (number current maximum : Int32)
    (stubMaximum : stub.config.getMaxReplicaCount type = maximum)
    (kubernetesMaximum : k.config.getMaxReplicaCount type = maximum)
    (nonnegative : 0 ≤ current) (bounded : current ≤ maximum)
    (stubCount : ((stub.services type).length : Int) = current.toInt)
    (kubernetesCount : k.getReplicaCount type = .ok current)
    (serves : k.Serves type) (settled : k.Settled type) :
    (MeetsContract (StubCoordinator.service env) stub type number ∧
        MeetsContract KubernetesCoordinator.service k type number) ↔
      ChangesOrIgnored (k.config.controllerNames type).names number current maximum := by
  have order := Int32.le_iff_toInt_le.mp bounded
  have sized : ((stub.services type).length : Int) ≤ (stub.config.getMaxReplicaCount type).toInt := by
    rw [stubMaximum, stubCount]
    exact order
  have top : 0 ≤ k.config.getMaxReplicaCount type := by
    have low := toInt_nonneg.mp nonnegative
    rw [kubernetesMaximum, toInt_nonneg]
    omega
  have stubHolds := stub_meets_contract env starts stub type number sized
  have kubernetes := kubernetes_meets_contract_iff k type number current serves settled top kubernetesCount
  rw [kubernetesMaximum] at kubernetes
  rw [← kubernetes]
  exact and_iff_right stubHolds

def startAll : StubEnvironment := ⟨fun _ => true, fun _ => false⟩

def oneStarted : StubCoordinator where
  config := .default
  services
    | .processor => []
    | .producer => [⟨.burst, 0⟩]
  created := 1
  drawn := 1

def oneRunning : KubernetesCoordinator where
  config := ⟨⟨8, 4⟩, .single "r", .single "p", "default"⟩
  cluster := ⟨fun _ _ => some ⟨1, 1⟩, fun _ _ => true⟩

theorem coordinators_meet_contract_iff_three :
    oneRunning.Serves .producer ∧ oneRunning.Settled .producer ∧
      ((MeetsContract (StubCoordinator.service startAll) oneStarted .producer 3 ∧
          MeetsContract KubernetesCoordinator.service oneRunning .producer 3) ↔ ChangesOrIgnored ["p"] 3 1 4) :=
  have serves : oneRunning.Serves .producer := fun _ _ => ⟨rfl, rfl⟩
  have settled : oneRunning.Settled .producer := fun _ _ => rfl
  ⟨serves, settled, coordinators_meet_contract_iff startAll (fun _ => rfl) oneStarted oneRunning .producer 3 1 4
    rfl rfl (by decide) (by decide) rfl rfl serves settled⟩

theorem clamped_breaks_contract :
    oneRunning.getReplicaCount .producer = .ok 1 ∧
      (oneRunning.setReplicaCount .producer 9).1.getReplicaCount .producer = .ok 4 ∧
      (oneRunning.setReplicaCount .producer 9).2 = false ∧
      (oneRunning.setReplicaCount .producer 1).2 = true ∧
      ¬ MeetsContract KubernetesCoordinator.service oneRunning .producer 9 ∧
      ¬ MeetsContract KubernetesCoordinator.service oneRunning .producer 1 := by
  have beyond : ¬ MeetsContract KubernetesCoordinator.service oneRunning .producer 9 := by
    intro meets
    obtain ⟨before, after, count, changed, ignored, _, _⟩ := meets
    cases count
    cases changed
    exact absurd (ignored (.inr (by decide))) (by decide)
  have unchanged : ¬ MeetsContract KubernetesCoordinator.service oneRunning .producer 1 := by
    intro meets
    obtain ⟨before, after, count, changed, _, _, answered⟩ := meets
    cases count
    cases changed
    exact answered.mp rfl rfl
  exact ⟨rfl, rfl, rfl, rfl, beyond, unchanged⟩

end Coordinator
