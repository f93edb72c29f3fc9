import Demonstrator.Java.AutoScaler.Config
import Demonstrator.Java.Coordinator.Backend

namespace AutoScaler

open ConfigUtils Coordinator

structure AutoScalerImpl where
  config : AutoScalerConfig
  oldValue : ℚ
  slope : ℚ

def AutoScalerImpl.create (config : AutoScalerConfig) : AutoScalerImpl := ⟨config, 0, 0⟩

def relReplicas (config : AutoScalerConfig) (slope value : ℚ) : Option Int32 :=
  if config.slope2 < slope then some 2
  else if config.slope1 < slope then some 1
  else if -config.slope1 < slope then
    if value < config.queueLowBarrier.toInt then some (-1)
    else if config.queueHighBarrier.toInt < value then some 1
    else none
  else if -config.slope2 < slope ∧ value < config.queueHighBarrier.toInt then some (-1)
  else if value < config.queueHighBarrier.toInt then some (-2)
  else none

/-- `checkQueue` up to its call of `scale`, for the utilisation that was read. -/
def AutoScalerImpl.checkQueue (scaler : AutoScalerImpl) (value : ℚ) : AutoScalerImpl × Option Int32 :=
  let slope := (value - scaler.oldValue) / scaler.config.pollInterval.toInt
  ({ scaler with oldValue := value, slope }, relReplicas scaler.config slope value)

def AutoScalerImpl.updated (scaler : AutoScalerImpl) : Option Dictionary → AutoScalerImpl
  | none => { scaler with config := .default }
  | some properties =>
    match AutoScalerConfig.ofProperties properties with
    | .error _ => scaler
    | .ok config => { scaler with config }

def newReplicas (type : ServiceType) (current relReplicas : Int32) : Int32 :=
  if type = .processor then max 1 (current + relReplicas) else current + relReplicas

inductive PollThread where
  | sleeping
  | scaling (relReplicas : Int32)
  | requesting (number : Int32)
  deriving DecidableEq, Repr

inductive StartThread where
  | producer
  | processor
  | finished
  deriving DecidableEq, Repr

structure System where
  scaler : AutoScalerImpl
  poll : PollThread
  start : StartThread
  coordinator : Backend

def System.initial (config : AutoScalerConfig) (coordinator : Backend) : System :=
  ⟨.create config, .sleeping, .producer, coordinator⟩

inductive Action where
  | startRequest
  | checkQueue (value : ℚ)
  | scaleRead
  | scaleRequest
  | updated (properties : Option Dictionary)
  | drift (status : String → String → Int32)

def step (s : System) : Action → Option System
  | .startRequest =>
    match s.start with
    | .producer =>
      some { s with coordinator := (s.coordinator.setReplicaCount .producer 1).1, start := .processor }
    | .processor =>
      some { s with coordinator := (s.coordinator.setReplicaCount .processor 1).1, start := .finished }
    | .finished => none
  | .checkQueue value =>
    if s.poll = .sleeping then
      let (scaler, change) := s.scaler.checkQueue value
      match change with
      | none => some { s with scaler }
      | some relReplicas => some { s with scaler, poll := .scaling relReplicas }
    else none
  | .scaleRead =>
    match s.poll with
    | .scaling relReplicas =>
      match s.coordinator.getReplicaCount .processor with
      -- the loop of the polling thread logs the exception and goes on
      | .error _ => some { s with poll := .sleeping }
      | .ok current => some { s with poll := .requesting (newReplicas .processor current relReplicas) }
    | _ => none
  | .scaleRequest =>
    match s.poll with
    | .requesting number =>
      some { s with coordinator := (s.coordinator.setReplicaCount .processor number).1, poll := .sleeping }
    | _ => none
  | .updated properties => some { s with scaler := s.scaler.updated properties }
  | .drift status => some { s with coordinator := s.coordinator.drift status }

end AutoScaler
