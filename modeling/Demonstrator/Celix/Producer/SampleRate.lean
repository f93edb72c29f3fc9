import Demonstrator.Transition.Runs
import Mathlib.Logic.Function.Basic

namespace Celix

open Transition

structure ProducerThreadData (Service : Type) where
  service : Service
  sampleRate : UInt32
  deriving DecidableEq, Repr

structure Producer (Service : Type) where
  queueServices : Service → Option (ProducerThreadData Service)

namespace Producer

variable {Service : Type}

def MAX_SAMPLES_PER_SEC : Int32 := 500

def create : Producer Service := ⟨fun _ => none⟩

def queueServiceAdded [DecidableEq Service] (p : Producer Service) (service : Service) : Producer Service :=
  let thData : ProducerThreadData Service := ⟨service, MAX_SAMPLES_PER_SEC.toUInt32⟩
  ⟨Function.update p.queueServices service (some thData)⟩

/-- A service that is not in the map makes the code write through NULL. -/
def queueServiceRemoved [DecidableEq Service] (p : Producer Service) (service : Service) :
    Option (Producer Service) :=
  match p.queueServices service with
  | none => none
  | some _ => some ⟨Function.update p.queueServices service none⟩

def setSampleRate (p : Producer Service) (rate : Int32) : Producer Service :=
  ⟨fun service => (p.queueServices service).map fun thData => { thData with sampleRate := rate.toUInt32 }⟩

inductive Call (Service : Type) where
  | queueServiceAdded (service : Service)
  | queueServiceRemoved (service : Service)
  | setSampleRate (rate : Int32)
  deriving DecidableEq, Repr

structure Run (Service : Type) where
  producer : Producer Service
  requested : Int32

def Run.initial : Run Service := ⟨.create, MAX_SAMPLES_PER_SEC⟩

def step [DecidableEq Service] (s : Run Service) : Call Service → Option (Run Service)
  | .queueServiceAdded service => some { s with producer := s.producer.queueServiceAdded service }
  | .queueServiceRemoved service =>
    (s.producer.queueServiceRemoved service).map fun producer => { s with producer }
  | .setSampleRate rate => some ⟨s.producer.setSampleRate rate, rate⟩

def RateHonoured (s : Run Service) : Prop :=
  ∀ service thData, s.producer.queueServices service = some thData → thData.sampleRate.toInt32 = s.requested

/-- A service arrives only while the maximum is the requested rate. -/
def AddedAtMaximum (s : Run Service) : Call Service → Prop
  | .queueServiceAdded _ => s.requested = MAX_SAMPLES_PER_SEC
  | _ => True

theorem honoured_set (s : Run Service) (rate : Int32) :
    RateHonoured ⟨s.producer.setSampleRate rate, rate⟩ := by
  intro service thData found
  obtain ⟨before, _, rfl⟩ := Option.map_eq_some_iff.mp found
  rfl

variable [DecidableEq Service]

theorem honoured_added (s : Run Service) (service : Service) (honoured : RateHonoured s) :
    RateHonoured { s with producer := s.producer.queueServiceAdded service } ↔
      s.requested = MAX_SAMPLES_PER_SEC := by
  constructor
  · intro later
    have fresh := later service ⟨service, MAX_SAMPLES_PER_SEC.toUInt32⟩ (Function.update_self ..)
    exact fresh.symm
  · intro maximum other thData found
    by_cases same : other = service
    · subst same
      cases (Function.update_self ..).symm.trans found
      exact maximum.symm
    · exact honoured other thData ((Function.update_of_ne same ..).symm.trans found)

theorem honoured_removed {s : Run Service} {service : Service} {producer : Producer Service}
    (honoured : RateHonoured s) (removed : s.producer.queueServiceRemoved service = some producer) :
    RateHonoured { s with producer } := by
  simp only [Producer.queueServiceRemoved] at removed
  split at removed
  · cases removed
  · cases removed
    intro other thData found
    by_cases same : other = service
    · subst same
      simp at found
    · exact honoured other thData ((Function.update_of_ne same ..).symm.trans found)

theorem honoured_step (s : Run Service) (call : Call Service) (t : Run Service) (honoured : RateHonoured s)
    (h : step s call = some t) : RateHonoured t ↔ AddedAtMaximum s call := by
  cases call with
  | queueServiceAdded service =>
    cases h
    exact honoured_added s service honoured
  | queueServiceRemoved service =>
    obtain ⟨producer, removed, rfl⟩ := Option.map_eq_some_iff.mp h
    exact ⟨fun _ => True.intro, fun _ => honoured_removed honoured removed⟩
  | setSampleRate rate =>
    cases h
    exact ⟨fun _ => True.intro, fun _ => honoured_set s rate⟩

theorem addedAtMaximum_disabled (s : Run Service) (call : Call Service) (_ : RateHonoured s)
    (h : step s call = none) : AddedAtMaximum s call := by
  cases call with
  | queueServiceAdded service => cases h
  | queueServiceRemoved service | setSampleRate rate => exact True.intro

/-- The requested rate is honoured after each call just if no service arrives after a request for
    less (or more) than the maximum. -/
theorem rate_honoured_iff (calls : List (Call Service)) :
    Always step RateHonoured (Run.initial : Run Service) calls ↔
      Meets step AddedAtMaximum (Run.initial : Run Service) calls := by
  apply always_iff_meets honoured_step addedAtMaximum_disabled
  intro service thData found
  cases found

theorem rate_lost_on_arrival :
    ∃ final, exec step (Run.initial : Run Nat) [.setSampleRate 50, .queueServiceAdded 0] = some final ∧
      final.requested = 50 ∧ final.producer.queueServices 0 = some ⟨0, 500⟩ ∧
      ¬ Always step RateHonoured (Run.initial : Run Nat) [.setSampleRate 50, .queueServiceAdded 0] := by
  refine ⟨_, rfl, rfl, rfl, fun always => ?_⟩
  have reached := ((always.2 _ rfl).2 _ rfl : RateHonoured _)
  have read := reached 0 ⟨0, 500⟩ rfl
  exact absurd read (by decide)

end Producer

end Celix
