import Demonstrator.Arithmetic.Int32
import Demonstrator.Java.Coordinator.Service
import Mathlib.Logic.Function.Basic

namespace Coordinator

open Arithmetic

inductive ActivatorKind where
  | processor
  | periodic
  | burst
  deriving DecidableEq, Repr

structure Activator where
  kind : ActivatorKind
  serial : Nat
  deriving DecidableEq, Repr

structure StubEnvironment where
  starts : Activator → Bool
  nextBoolean : Nat → Bool

/-- `StubCoordinatorService`: its configuration, `m_services`, and how many activators were
    created and booleans drawn so far. -/
structure StubCoordinator where
  config : CoordinatorConfig
  services : ServiceType → List Activator
  created : Nat
  drawn : Nat

namespace StubCoordinator

/-- The loop `while (!comps.isEmpty() && replicas++ < 0)`. An exception of `stop` is only logged:
    the activator is out of the list by then. -/
def removeServices : List Activator → Int32 → List Activator
  | [], _ => []
  | comp :: rest, replicas => if replicas < 0 then removeServices rest (replicas + 1) else comp :: rest

/-- The loop `while (replicas-- > 0)` with `replicas` rounds left. An activator whose `start`
    throws is not added. -/
def addServices (env : StubEnvironment) (kind : ActivatorKind) :
    Nat → List Activator → Nat → List Activator × Nat
  | 0, comps, created => (comps, created)
  | rounds + 1, comps, created =>
    let ba : Activator := ⟨kind, created⟩
    if env.starts ba then addServices env kind rounds (comps ++ [ba]) (created + 1)
    else addServices env kind rounds comps (created + 1)

def updateServices (env : StubEnvironment) (kind : ActivatorKind) (comps : List Activator) (created : Nat)
    (replicas : Int32) : List Activator × Nat :=
  if replicas < 0 then (removeServices comps replicas, created)
  else if 0 < replicas then addServices env kind replicas.toNatClampNeg comps created
  else (comps, created)

def getReplicaCount (s : StubCoordinator) (type : ServiceType) : Int32 :=
  Int32.ofNat (s.services type).length

def supplier (env : StubEnvironment) (s : StubCoordinator) : ServiceType → ActivatorKind
  | .processor => .processor
  | .producer => if env.nextBoolean s.drawn then .periodic else .burst

def setReplicaCount (env : StubEnvironment) (s : StubCoordinator) (type : ServiceType) (number : Int32) :
    StubCoordinator × Bool :=
  let comp := s.services type
  if 0 ≤ number ∧ number ≤ s.config.getMaxReplicaCount type ∧ number ≠ Int32.ofNat comp.length then
    let updated := updateServices env (supplier env s type) comp s.created (number - Int32.ofNat comp.length)
    ({ s with
        services := Function.update s.services type updated.1
        created := updated.2
        drawn := if type = .producer then s.drawn + 1 else s.drawn }, true)
  else (s, false)

def service (env : StubEnvironment) : CoordinatorService StubCoordinator where
  getMaxReplicaCount s := s.config.getMaxReplicaCount
  getReplicaCount s type := .ok (s.getReplicaCount type)
  setReplicaCount := setReplicaCount env

theorem removeServices_length (comps : List Activator) (replicas : Int32) (bound : comps.length < 2 ^ 31)
    (enough : -replicas.toInt ≤ comps.length) (nonpositive : replicas.toInt ≤ 0) :
    ((removeServices comps replicas).length : Int) = comps.length + replicas.toInt := by
  induction comps generalizing replicas with
  | nil =>
    rw [List.length_nil] at enough
    rw [removeServices, List.length_nil]
    omega
  | cons comp rest ih =>
    rw [List.length_cons] at bound enough
    by_cases negative : replicas < 0
    · have below : replicas.toInt < 0 := by simpa [Int32.lt_iff_toInt_lt] using negative
      have low := replicas.le_toInt
      have one : (1 : Int32).toInt = 1 := rfl
      have next : (replicas + 1).toInt = replicas.toInt + 1 := by
        rw [toInt_add_of_range] <;> omega
      rw [removeServices, if_pos negative, ih (replicas + 1) (by omega) (by omega) (by omega), next,
        List.length_cons]
      push_cast
      omega
    · have zero : replicas.toInt = 0 := by
        rw [Int32.lt_iff_toInt_lt, Int32.toInt_zero] at negative
        omega
      rw [removeServices, if_neg negative, zero]
      simp

theorem addServices_length (env : StubEnvironment) (starts : ∀ ba, env.starts ba = true)
    (kind : ActivatorKind) (rounds : Nat) (comps : List Activator) (created : Nat) :
    (addServices env kind rounds comps created).1.length = comps.length + rounds := by
  induction rounds generalizing comps created with
  | zero => rfl
  | succ rounds ih =>
    simp only [addServices, starts, if_true]
    rw [ih, List.length_append, List.length_singleton]
    omega

theorem updateServices_length (env : StubEnvironment) (starts : ∀ ba, env.starts ba = true)
    (kind : ActivatorKind) (comps : List Activator) (created : Nat) (replicas : Int32)
    (bound : comps.length < 2 ^ 31) (enough : -replicas.toInt ≤ comps.length) :
    ((updateServices env kind comps created replicas).1.length : Int) = comps.length + replicas.toInt := by
  unfold updateServices
  by_cases negative : replicas < 0
  · have below : replicas.toInt < 0 := by simpa [Int32.lt_iff_toInt_lt] using negative
    rw [if_pos negative]
    exact removeServices_length comps replicas bound enough (by omega)
  · have above : 0 ≤ replicas.toInt := by
      rw [Int32.lt_iff_toInt_lt, Int32.toInt_zero] at negative
      omega
    rw [if_neg negative]
    by_cases positive : 0 < replicas
    · have rounds : (replicas.toNatClampNeg : Int) = replicas.toInt := Int.toNat_of_nonneg above
      rw [if_pos positive, addServices_length env starts]
      push_cast
      omega
    · have zero : replicas.toInt = 0 := by
        rw [Int32.lt_iff_toInt_lt, Int32.toInt_zero] at positive
        omega
      rw [if_neg positive, zero]
      simp

theorem set_within (env : StubEnvironment) (starts : ∀ ba, env.starts ba = true) (s : StubCoordinator)
    (type : ServiceType) (number : Int32)
    (sized : ((s.services type).length : Int) ≤ (s.config.getMaxReplicaCount type).toInt)
    (nonnegative : 0 ≤ number) (within : number ≤ s.config.getMaxReplicaCount type) :
    (((s.setReplicaCount env type number).1.services type).length : Int) = number.toInt := by
  have top := (s.config.getMaxReplicaCount type).toInt_lt
  have length : (Int32.ofNat (s.services type).length).toInt = (s.services type).length :=
    Int32.toInt_ofNat_of_lt (by omega)
  have low := toInt_nonneg.mp nonnegative
  have high := number.toInt_lt
  by_cases same : number = Int32.ofNat (s.services type).length
  · have kept : s.setReplicaCount env type number = (s, false) := by
      simp [setReplicaCount, ← same]
    rw [kept, same, length]
  · have difference : (number - Int32.ofNat (s.services type).length).toInt =
        number.toInt - (s.services type).length := by
      rw [toInt_sub_of_range] <;> omega
    have updated := updateServices_length env starts (supplier env s type) (s.services type) s.created
      (number - Int32.ofNat (s.services type).length) (by omega) (by omega)
    simp only [setReplicaCount, nonnegative, within, same, ne_eq, not_false_eq_true, and_self, if_true,
      Function.update_self]
    omega

theorem getReplicaCount_set_within (env : StubEnvironment) (starts : ∀ ba, env.starts ba = true)
    (s : StubCoordinator) (type : ServiceType) (number : Int32)
    (sized : ((s.services type).length : Int) ≤ (s.config.getMaxReplicaCount type).toInt)
    (nonnegative : 0 ≤ number) (within : number ≤ s.config.getMaxReplicaCount type) :
    (s.setReplicaCount env type number).1.getReplicaCount type = number := by
  have length := set_within env starts s type number sized nonnegative within
  have top := number.toInt_lt
  apply Int32.toInt_inj.mp
  rw [getReplicaCount, Int32.toInt_ofNat_of_lt (by omega)]
  exact length

theorem set_outside (env : StubEnvironment) (s : StubCoordinator) (type : ServiceType) (number : Int32)
    (outside : number < 0 ∨ s.config.getMaxReplicaCount type < number) :
    s.setReplicaCount env type number = (s, false) := by
  have rejected : ¬ (0 ≤ number ∧ number ≤ s.config.getMaxReplicaCount type ∧
      number ≠ Int32.ofNat (s.services type).length) := by
    intro accepted
    obtain ⟨low, high, _⟩ := accepted
    rcases outside with negative | beyond
    · exact Int32.not_lt.mpr low negative
    · exact Int32.not_lt.mpr high beyond
  simp only [setReplicaCount, rejected, if_false]

@[simp] theorem set_config (env : StubEnvironment) (s : StubCoordinator) (type : ServiceType) (number : Int32) :
    (s.setReplicaCount env type number).1.config = s.config := by
  unfold setReplicaCount
  dsimp only
  split <;> rfl

theorem set_other (env : StubEnvironment) (s : StubCoordinator) (type other : ServiceType) (number : Int32)
    (different : other ≠ type) : (s.setReplicaCount env type number).1.services other = s.services other := by
  unfold setReplicaCount
  dsimp only
  split
  · exact Function.update_of_ne different _ _
  · rfl

theorem set_answer (env : StubEnvironment) (s : StubCoordinator) (type : ServiceType) (number : Int32)
    (nonnegative : 0 ≤ number) (within : number ≤ s.config.getMaxReplicaCount type) :
    (s.setReplicaCount env type number).2 = true ↔ number ≠ s.getReplicaCount type := by
  by_cases same : number = s.getReplicaCount type
  · have kept : s.setReplicaCount env type number = (s, false) := by
      simp [setReplicaCount, getReplicaCount, same]
    rw [kept]
    simp [same]
  · simp only [getReplicaCount] at same
    simp [setReplicaCount, nonnegative, within, same, getReplicaCount]

end StubCoordinator

end Coordinator
