import Demonstrator.Java.Coordinator.Stub
import Demonstrator.Transition.Loops

namespace Coordinator

open Arithmetic Transition

inductive Attempt where
  | start (ba : Activator) (succeeded : Bool)
  | stop (comp : Activator) (succeeded : Bool)
  deriving DecidableEq, Repr

def started (attempts : List Attempt) : List Activator :=
  attempts.filterMap fun
    | .start ba true => some ba
    | _ => none

def stopped (attempts : List Attempt) : List Activator :=
  attempts.filterMap fun
    | .stop comp _ => some comp
    | _ => none

@[simp] theorem started_append (first second : List Attempt) :
    started (first ++ second) = started first ++ started second := List.filterMap_append

@[simp] theorem stopped_append (first second : List Attempt) :
    stopped (first ++ second) = stopped first ++ stopped second := List.filterMap_append

structure Loop where
  comps : List Activator
  replicas : Int32
  created : Nat
  attempts : List Attempt

namespace StubCoordinator

section Loops

variable (env : StubEnvironment) (stops : Activator → Bool) (kind : ActivatorKind)

def removeRound (loop : Loop) : Option Loop :=
  match loop.comps with
  | [] => none
  | comp :: rest =>
    if loop.replicas < 0 then
      some { loop with
        comps := rest
        replicas := loop.replicas + 1
        attempts := loop.attempts ++ [.stop comp (stops comp)] }
    else none

def addRound (loop : Loop) : Option Loop :=
  if 0 < loop.replicas then
    let ba : Activator := ⟨kind, loop.created⟩
    some {
      comps := if env.starts ba then loop.comps ++ [ba] else loop.comps
      replicas := loop.replicas - 1
      created := loop.created + 1
      attempts := loop.attempts ++ [.start ba (env.starts ba)] }
  else none

def updateRound (replicas : Int32) : Loop → Option Loop :=
  if replicas < 0 then removeRound stops else addRound env kind

def removeAttempts : List Activator → Int32 → List Attempt
  | [], _ => []
  | comp :: rest, replicas =>
    if replicas < 0 then .stop comp (stops comp) :: removeAttempts rest (replicas + 1) else []

def addAttempts : Nat → Nat → List Attempt
  | 0, _ => []
  | rounds + 1, created =>
    .start ⟨kind, created⟩ (env.starts ⟨kind, created⟩) :: addAttempts rounds (created + 1)

def updateAttempts (comps : List Activator) (created : Nat) (replicas : Int32) : List Attempt :=
  if replicas < 0 then removeAttempts stops comps replicas
  else addAttempts env kind replicas.toNatClampNeg created

theorem length_addAttempts (rounds created : Nat) : (addAttempts env kind rounds created).length = rounds := by
  induction rounds generalizing created with
  | zero => rfl
  | succ rounds ih => rw [addAttempts, List.length_cons, ih]

theorem removed_split (comps : List Activator) (replicas : Int32) :
    stopped (removeAttempts stops comps replicas) ++ removeServices comps replicas = comps := by
  fun_induction removeServices comps replicas with
  | case1 replicas => rfl
  | case2 comp rest replicas negative ih =>
    rw [removeAttempts, if_pos negative]
    exact congrArg (comp :: ·) ih
  | case3 comp rest replicas nonnegative =>
    rw [removeAttempts, if_neg nonnegative]
    rfl

theorem started_removeAttempts (comps : List Activator) (replicas : Int32) :
    started (removeAttempts stops comps replicas) = [] := by
  fun_induction removeAttempts stops comps replicas with
  | case1 replicas => rfl
  | case2 comp rest replicas negative ih => exact ih
  | case3 comp rest replicas nonnegative => rfl

theorem addServices_started (rounds : Nat) (comps : List Activator) (created : Nat) :
    (addServices env kind rounds comps created).1 = comps ++ started (addAttempts env kind rounds created) := by
  induction rounds generalizing comps created with
  | zero => simp [addServices, addAttempts, started]
  | succ rounds ih =>
    rw [addServices, addAttempts]
    cases starts : env.starts ⟨kind, created⟩ with
    | true =>
      simp only [if_true]
      rw [ih, List.append_assoc]
      rfl
    | false =>
      simp only [Bool.false_eq_true, if_false]
      rw [ih]
      rfl

theorem stopped_addAttempts (rounds created : Nat) : stopped (addAttempts env kind rounds created) = [] := by
  induction rounds generalizing created with
  | zero => rfl
  | succ rounds ih => exact ih (created + 1)

theorem updateServices_split (comps : List Activator) (created : Nat) (replicas : Int32) :
    comps ++ started (updateAttempts env stops kind comps created replicas) =
      stopped (updateAttempts env stops kind comps created replicas) ++
        (updateServices env kind comps created replicas).1 := by
  unfold updateAttempts updateServices
  by_cases negative : replicas < 0
  · rw [if_pos negative, if_pos negative, started_removeAttempts, removed_split, List.append_nil]
  · rw [if_neg negative, if_neg negative, stopped_addAttempts]
    by_cases positive : 0 < replicas
    · rw [if_pos positive, addServices_started]
      rfl
    · have none : replicas.toNatClampNeg = 0 := by
        rw [Int32.lt_iff_toInt_lt, Int32.toInt_zero] at positive
        unfold Int32.toNatClampNeg
        omega
      rw [if_neg positive, none]
      simp [addAttempts, started]

theorem removeRound_leaves (comps : List Activator) (replicas : Int32) (created : Nat) (log : List Attempt) :
    ∃ left, Leaves (removeRound stops) ⟨comps, replicas, created, log⟩
      (removeAttempts stops comps replicas).length
      ⟨removeServices comps replicas, left, created, log ++ removeAttempts stops comps replicas⟩ := by
  induction comps generalizing replicas log with
  | nil =>
    refine ⟨replicas, ?_⟩
    rw [removeAttempts, removeServices, List.append_nil]
    exact .exit rfl
  | cons comp rest ih =>
    by_cases negative : replicas < 0
    · obtain ⟨left, later⟩ := ih (replicas + 1) (log ++ [.stop comp (stops comp)])
      refine ⟨left, ?_⟩
      rw [removeAttempts, removeServices, if_pos negative, if_pos negative, List.length_cons]
      rw [List.append_assoc] at later
      exact .round (by simp [removeRound, negative]) later
    · refine ⟨replicas, ?_⟩
      rw [removeAttempts, removeServices, if_neg negative, if_neg negative, List.append_nil]
      exact .exit (by simp [removeRound, negative])

theorem addRound_leaves (rounds : Nat) (comps : List Activator) (replicas : Int32) (created : Nat)
    (log : List Attempt) (count : replicas.toInt = rounds) :
    ∃ left, Leaves (addRound env kind) ⟨comps, replicas, created, log⟩ rounds
      ⟨(addServices env kind rounds comps created).1, left, (addServices env kind rounds comps created).2,
        log ++ addAttempts env kind rounds created⟩ := by
  have one : (1 : Int32).toInt = 1 := rfl
  induction rounds generalizing comps replicas created log with
  | zero =>
    have done : ¬ 0 < replicas := by
      rw [Int32.lt_iff_toInt_lt, count]
      decide
    refine ⟨replicas, ?_⟩
    rw [addServices, addAttempts, List.append_nil]
    exact .exit (by simp [addRound, done])
  | succ rounds ih =>
    have positive : 0 < replicas := by
      rw [Int32.lt_iff_toInt_lt, count, Int32.toInt_zero]
      omega
    have high := replicas.toInt_lt
    have next : (replicas - 1).toInt = rounds := by
      rw [toInt_sub_of_range (by omega) (by omega)]
      omega
    obtain ⟨left, later⟩ := ih
      (if env.starts ⟨kind, created⟩ then comps ++ [⟨kind, created⟩] else comps) (replicas - 1) (created + 1)
      (log ++ [.start ⟨kind, created⟩ (env.starts ⟨kind, created⟩)]) next
    have services : addServices env kind (rounds + 1) comps created =
        addServices env kind rounds
          (if env.starts ⟨kind, created⟩ then comps ++ [⟨kind, created⟩] else comps) (created + 1) := by
      rw [addServices]
      split <;> rfl
    refine ⟨left, ?_⟩
    rw [services, addAttempts]
    rw [List.append_assoc] at later
    exact .round (by simp [addRound, positive]) later

theorem updateRound_leaves (comps : List Activator) (created : Nat) (replicas : Int32) :
    ∃ left, Leaves (updateRound env stops kind replicas) ⟨comps, replicas, created, []⟩
      (updateAttempts env stops kind comps created replicas).length
      ⟨(updateServices env kind comps created replicas).1, left,
        (updateServices env kind comps created replicas).2,
        updateAttempts env stops kind comps created replicas⟩ := by
  unfold updateRound updateAttempts updateServices
  by_cases negative : replicas < 0
  · simp only [if_pos negative]
    exact removeRound_leaves stops comps replicas created []
  · have above : 0 ≤ replicas.toInt := by
      rw [Int32.lt_iff_toInt_lt, Int32.toInt_zero] at negative
      omega
    have count : replicas.toInt = replicas.toNatClampNeg := (Int.toNat_of_nonneg above).symm
    have leaves := addRound_leaves env kind replicas.toNatClampNeg comps replicas created [] count
    simp only [if_neg negative]
    rw [length_addAttempts]
    by_cases positive : 0 < replicas
    · simp only [if_pos positive]
      exact leaves
    · have none : replicas.toNatClampNeg = 0 := by
        rw [Int32.lt_iff_toInt_lt, Int32.toInt_zero] at positive
        omega
      rw [none] at leaves ⊢
      simp only [if_neg positive]
      exact leaves

theorem length_removeAttempts (comps : List Activator) (replicas : Int32) :
    (removeAttempts stops comps replicas).length = (stopped (removeAttempts stops comps replicas)).length := by
  fun_induction removeAttempts stops comps replicas with
  | case1 replicas => rfl
  | case2 comp rest replicas negative ih => exact congrArg (· + 1) ih
  | case3 comp rest replicas nonnegative => rfl

theorem length_started_le (attempts : List Attempt) : (started attempts).length ≤ attempts.length :=
  List.length_filterMap_le _ _

theorem length_started_addAttempts (rounds created : Nat)
    (succeeded : ∀ ba, .start ba false ∉ addAttempts env kind rounds created) :
    (started (addAttempts env kind rounds created)).length = rounds := by
  induction rounds generalizing created with
  | zero => rfl
  | succ rounds ih =>
    have later := ih (created + 1) fun ba failed => succeeded ba (List.mem_cons_of_mem _ failed)
    cases starts : env.starts ⟨kind, created⟩ with
    | true =>
      rw [addAttempts, starts]
      exact congrArg (· + 1) later
    | false =>
      have failed := succeeded ⟨kind, created⟩
      rw [addAttempts, starts] at failed
      exact absurd List.mem_cons_self failed

theorem updateServices_size (comps : List Activator) (created : Nat) (number : Int32)
    (bound : comps.length < 2 ^ 31) (nonnegative : 0 ≤ number) :
    let replicas := number - Int32.ofNat comps.length
    let attempts := updateAttempts env stops kind comps created replicas
    let size : Int := (updateServices env kind comps created replicas).1.length
    attempts.length = (number.toInt - comps.length).natAbs ∧
      (number.toInt < comps.length ∨ (∀ ba, .start ba false ∉ attempts) → size = number.toInt) ∧
      (comps.length ≤ number.toInt → comps.length ≤ size ∧ size ≤ number.toInt) := by
  intro replicas attempts size
  have low := toInt_nonneg.mp nonnegative
  have high := number.toInt_lt
  have length : (Int32.ofNat comps.length).toInt = comps.length := Int32.toInt_ofNat_of_lt (by omega)
  have difference : replicas.toInt = number.toInt - comps.length := by
    rw [← length]
    apply toInt_sub_of_range <;> omega
  have split := congrArg List.length (updateServices_split env stops kind comps created replicas)
  rw [List.length_append, List.length_append] at split
  have sized : size = comps.length + (started attempts).length - (stopped attempts).length := by
    simp only [size, attempts]
    omega
  by_cases negative : replicas < 0
  · have below : replicas.toInt < 0 := by simpa [Int32.lt_iff_toInt_lt] using negative
    have removing : attempts = removeAttempts stops comps replicas := if_pos negative
    have left := removeServices_length comps replicas bound (by omega) (by omega)
    have removed := congrArg List.length (removed_split stops comps replicas)
    have rounds := length_removeAttempts stops comps replicas
    have none := started_removeAttempts stops comps replicas
    rw [List.length_append] at removed
    rw [removing, none, List.length_nil] at sized
    rw [removing]
    omega
  · have adding : attempts = addAttempts env kind replicas.toNatClampNeg created := if_neg negative
    have above : 0 ≤ replicas.toInt := by
      rw [Int32.lt_iff_toInt_lt, Int32.toInt_zero] at negative
      omega
    have count : (replicas.toNatClampNeg : Int) = replicas.toInt := Int.toNat_of_nonneg above
    have rounds := length_addAttempts env kind replicas.toNatClampNeg created
    have most := length_started_le (addAttempts env kind replicas.toNatClampNeg created)
    have none := stopped_addAttempts env kind replicas.toNatClampNeg created
    have all := length_started_addAttempts env kind replicas.toNatClampNeg created
    rw [adding, none, List.length_nil] at sized
    rw [adding]
    refine ⟨by omega, ?_, by omega⟩
    intro reached
    rcases reached with shrinks | succeeded
    · omega
    · have exact := all succeeded
      omega

end Loops

theorem setReplicaCount_cases (env : StubEnvironment) (s : StubCoordinator) (type : ServiceType)
    (number : Int32) :
    (0 ≤ number ∧ number ≤ s.config.getMaxReplicaCount type ∧
        (s.setReplicaCount env type number).2 = true ∧
        (s.setReplicaCount env type number).1.services = Function.update s.services type
          (updateServices env (supplier env s type) (s.services type) s.created
            (number - Int32.ofNat (s.services type).length)).1) ∨
      s.setReplicaCount env type number = (s, false) := by
  unfold setReplicaCount
  dsimp only
  split
  · rename_i accepted
    exact .inl ⟨accepted.1, accepted.2.1, rfl, rfl⟩
  · exact .inr rfl

theorem setReplicaCount_accepts (env : StubEnvironment) (s : StubCoordinator) (type : ServiceType) (number : Int32) :
    (s.setReplicaCount env type number).2 = true ↔ 0 ≤ number ∧ number ≤ s.config.getMaxReplicaCount type ∧
      number ≠ Int32.ofNat (s.services type).length := by
  unfold setReplicaCount
  dsimp only
  split
  · rename_i accepted
    exact iff_of_true rfl accepted
  · rename_i ignored
    exact iff_of_false Bool.false_ne_true ignored

end StubCoordinator

structure Record where
  coordinator : StubCoordinator
  attempts : ServiceType → List Attempt

namespace Record

open StubCoordinator

variable (env : StubEnvironment) (stops : Activator → Bool)

def initial (config : CoordinatorConfig) : Record := ⟨⟨config, fun _ => [], 0, 0⟩, fun _ => []⟩

def callAttempts (r : Record) (type : ServiceType) (number : Int32) : List Attempt :=
  if (r.coordinator.setReplicaCount env type number).2 then
    updateAttempts env stops (supplier env r.coordinator type) (r.coordinator.services type)
      r.coordinator.created (number - Int32.ofNat (r.coordinator.services type).length)
  else []

def call (r : Record) (type : ServiceType) (number : Int32) : Record × Bool :=
  let result := r.coordinator.setReplicaCount env type number
  (⟨result.1, Function.update r.attempts type (r.attempts type ++ r.callAttempts env stops type number)⟩, result.2)

def calls (r : Record) (requests : List (ServiceType × Int32)) : Record :=
  requests.foldl (fun r request => (r.call env stops request.1 request.2).1) r

/-- The state and the history in step: what was started, without the oldest ones, which were removed. -/
structure InStep (config : CoordinatorConfig) (r : Record) : Prop where
  configured : r.coordinator.config = config
  contents : ∀ type, started (r.attempts type) = stopped (r.attempts type) ++ r.coordinator.services type
  sized : ∀ type, ((r.coordinator.services type).length : Int) ≤ max 0 (config.getMaxReplicaCount type).toInt

variable {env stops}

theorem InStep.length_lt {config : CoordinatorConfig} {r : Record} (inStep : InStep config r)
    (type : ServiceType) : (r.coordinator.services type).length < 2 ^ 31 := by
  have sized := inStep.sized type
  have top := (config.getMaxReplicaCount type).toInt_lt
  omega

theorem inStep_call {config : CoordinatorConfig} {r : Record} (inStep : InStep config r) (type : ServiceType)
    (number : Int32) : InStep config (r.call env stops type number).1 where
  configured := (r.coordinator.set_config env type number).trans inStep.configured
  contents := by
    intro other
    by_cases same : other = type
    · subst same
      have before := inStep.contents other
      rcases setReplicaCount_cases env r.coordinator other number with ⟨_, _, answer, services⟩ | ignored
      · have split := updateServices_split env stops (supplier env r.coordinator other)
          (r.coordinator.services other) r.coordinator.created
          (number - Int32.ofNat (r.coordinator.services other).length)
        simp only [call, callAttempts, answer, if_true, services, Function.update_self, started_append,
          stopped_append, before, List.append_assoc]
        rw [split]
      · simp only [call, callAttempts, ignored, Bool.false_eq_true, if_false, Function.update_self,
          List.append_nil]
        exact before
    · simp only [call, Function.update_of_ne same, set_other env r.coordinator type other number same]
      exact inStep.contents other
  sized := by
    intro other
    by_cases same : other = type
    · subst same
      have before := inStep.sized other
      rcases setReplicaCount_cases env r.coordinator other number with ⟨low, high, _, services⟩ | ignored
      · have size := updateServices_size env stops (supplier env r.coordinator other)
          (r.coordinator.services other) r.coordinator.created number (inStep.length_lt other) low
        rw [inStep.configured, Int32.le_iff_toInt_le] at high
        simp only [call, services, Function.update_self]
        dsimp only at size
        omega
      · simp only [call, ignored]
        exact before
    · simp only [call, set_other env r.coordinator type other number same]
      exact inStep.sized other

theorem inStep_calls {config : CoordinatorConfig} {r : Record} (inStep : InStep config r)
    (requests : List (ServiceType × Int32)) : InStep config (r.calls env stops requests) := by
  induction requests generalizing r with
  | nil => exact inStep
  | cons request later ih => exact ih (inStep_call inStep request.1 request.2)

theorem inStep_initial (config : CoordinatorConfig) : InStep config (initial config) where
  configured := rfl
  contents := fun _ => rfl
  sized := fun _ => Int.le_max_left 0 _

theorem call_ignored {r : Record} {type : ServiceType} {number : Int32}
    (answer : (r.call env stops type number).2 = false) :
    (r.call env stops type number).1.coordinator.services = r.coordinator.services := by
  rcases setReplicaCount_cases env r.coordinator type number with ⟨_, _, accepted, _⟩ | ignored
  · exact absurd (answer.symm.trans accepted) Bool.false_ne_true
  · simp only [call, ignored]

end Record

open StubCoordinator in
/-- Whatever was requested before, and whichever calls of `start` and `stop` throw: the lists and the history
    are in step and within the maximum, and one more call changes no list, or only its own and by loops that
    end after as many rounds as it asks for. -/
theorem stub_calls_in_step (env : StubEnvironment) (stops : Activator → Bool) (config : CoordinatorConfig)
    (requests : List (ServiceType × Int32)) (type : ServiceType) (number : Int32) :
    let before := (Record.initial config).calls env stops requests
    let after := before.call env stops type number
    let attempts := before.callAttempts env stops type number
    let comps := before.coordinator.services type
    let replicas := number - Int32.ofNat comps.length
    let size : Int := (after.1.coordinator.services type).length
    (∀ type, started (before.attempts type) =
        stopped (before.attempts type) ++ before.coordinator.services type) ∧
      (∀ type, ((before.coordinator.services type).length : Int) ≤ max 0 (config.getMaxReplicaCount type).toInt) ∧
      (after.2 = true ↔
        0 ≤ number ∧ number ≤ config.getMaxReplicaCount type ∧ number ≠ Int32.ofNat comps.length) ∧
      (after.2 = false → after.1.coordinator.services = before.coordinator.services) ∧
      (after.2 = true →
        (∀ other, other ≠ type → after.1.coordinator.services other = before.coordinator.services other) ∧
        (number.toInt < comps.length ∨ (∀ ba, .start ba false ∉ attempts) → size = number.toInt) ∧
        (comps.length ≤ number.toInt → comps.length ≤ size ∧ size ≤ number.toInt) ∧
        (∃ rounds final, Leaves (updateRound env stops (supplier env before.coordinator type) replicas)
          ⟨comps, replicas, before.coordinator.created, []⟩ rounds final) ∧
        ∀ rounds final, Leaves (updateRound env stops (supplier env before.coordinator type) replicas)
            ⟨comps, replicas, before.coordinator.created, []⟩ rounds final →
          rounds = (number.toInt - comps.length).natAbs ∧ final.attempts = attempts ∧
            final.comps = after.1.coordinator.services type) := by
  intro before after attempts comps replicas size
  have inStep : Record.InStep config before := Record.inStep_calls (Record.inStep_initial config) requests
  have accepts := setReplicaCount_accepts env before.coordinator type number
  rw [inStep.configured] at accepts
  refine ⟨inStep.contents, inStep.sized, accepts, Record.call_ignored, ?_⟩
  intro answer
  rcases setReplicaCount_cases env before.coordinator type number with ⟨low, _, _, services⟩ | ignored
  · have updated : after.1.coordinator.services type = (updateServices env (supplier env before.coordinator type)
        comps before.coordinator.created replicas).1 := by
      simp only [after, Record.call, services, Function.update_self]
      rfl
    have made : attempts = updateAttempts env stops (supplier env before.coordinator type) comps
        before.coordinator.created replicas := if_pos answer
    have sized := updateServices_size env stops (supplier env before.coordinator type) comps
      before.coordinator.created number (inStep.length_lt type) low
    obtain ⟨left, leaves⟩ := updateRound_leaves env stops (supplier env before.coordinator type) comps
      before.coordinator.created replicas
    simp only [size, updated, made]
    refine ⟨fun other different => set_other env before.coordinator type other number different,
      sized.2.1, sized.2.2, ⟨_, _, leaves⟩, ?_⟩
    intro rounds final ended
    obtain ⟨sameRounds, sameState⟩ := leaves.unique ended
    subst sameState
    exact ⟨sameRounds.trans sized.1, rfl, rfl⟩
  · have rejected : after.2 = false := congrArg Prod.snd ignored
    exact absurd (rejected.symm.trans answer) Bool.false_ne_true

def failsOnce : StubEnvironment := ⟨fun ba => ba.serial != 1, fun _ => true⟩

theorem stub_retry_in_step :
    let before := (Record.initial .default).calls failsOnce (fun _ => true) [(.processor, 3)]
    let after := before.call failsOnce (fun _ => true) .processor 3
    before.coordinator.services .processor = [⟨.processor, 0⟩, ⟨.processor, 2⟩] ∧ after.2 = true ∧
      (after.1.coordinator.services .processor).length = 3 := by
  intro before after
  obtain ⟨_, _, accepts, _, changed⟩ :=
    stub_calls_in_step failsOnce (fun _ => true) .default [(.processor, 3)] .processor 3
  have answer : after.2 = true := accepts.mpr (by decide)
  have attempts : before.callAttempts failsOnce (fun _ => true) .processor 3 = [.start ⟨.processor, 3⟩ true] := by decide
  have started : ∀ ba, .start ba false ∉ before.callAttempts failsOnce (fun _ => true) .processor 3 := by
    intro ba failed
    rw [attempts] at failed
    cases List.mem_singleton.mp failed
  have size := (changed answer).2.1 (.inr started)
  exact ⟨by decide, answer, Int.ofNat_inj.mp size⟩

end Coordinator
