import Mathlib.Data.List.Basic

namespace Coordinator

inductive ServiceType where
  | processor
  | producer
  deriving DecidableEq, Repr

inductive Failure where
  | unavailable
  deriving DecidableEq, Repr

structure CoordinatorService (State : Type) where
  getMaxReplicaCount : State → ServiceType → Int32
  getReplicaCount : State → ServiceType → Except Failure Int32
  setReplicaCount : State → ServiceType → Int32 → State × Bool

structure CoordinatorConfig where
  maxNrProcessors : Int32
  maxNrProducers : Int32
  deriving DecidableEq, Repr

def CoordinatorConfig.default : CoordinatorConfig := ⟨8, 4⟩

def CoordinatorConfig.getMaxReplicaCount (config : CoordinatorConfig) : ServiceType → Int32
  | .processor => config.maxNrProcessors
  | .producer => config.maxNrProducers

end Coordinator
