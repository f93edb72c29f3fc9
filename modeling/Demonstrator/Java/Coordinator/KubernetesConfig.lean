import Demonstrator.Java.Coordinator.Kubernetes
import Demonstrator.Java.Util.StringValues

namespace Coordinator

open ConfigUtils

def keyMaxNrProcessors : String := "processors.max"
def keyMaxNrProducers : String := "producers.max"
def keyK8sNamespace : String := "kubernetes.namespace"
def keyProcessorNames : String := "processor.names"
def keyProducerNames : String := "producer.names"

def CoordinatorConfig.ofProperties (properties : Dictionary) : Except ConfigurationException CoordinatorConfig := do
  let maxNrProcessors ← getIntValue properties keyMaxNrProcessors
  let maxNrProducers ← getIntValue properties keyMaxNrProducers
  return { maxNrProcessors, maxNrProducers }

namespace KubernetesCoordinatorConfig

def ofProperties (properties : Properties) : Except ConfigurationException KubernetesCoordinatorConfig := do
  let config ← CoordinatorConfig.ofProperties properties.texts
  let processorNames ← getStringArrayValue properties keyProcessorNames
  let producerNames ← getStringArrayValue properties keyProducerNames
  let k8sNamespace ← getStringValue properties.texts keyK8sNamespace
  return {
    toCoordinatorConfig := config
    processorNames := ⟨processorNames.1, processorNames.2.1, processorNames.2.2⟩
    producerNames := ⟨producerNames.1, producerNames.2.1, producerNames.2.2⟩
    k8sNamespace }

def keys : List String :=
  [keyMaxNrProcessors, keyMaxNrProducers, keyProcessorNames, keyProducerNames, keyK8sNamespace]

theorem ofProperties_error {properties : Properties} {e : ConfigurationException}
    (failed : ofProperties properties = .error e) : e.key ∈ keys := by
  rcases bind_error failed with failed | ⟨_, _, failed⟩
  · rcases bind_error failed with failed | ⟨_, _, failed⟩
    · simp [keys, getIntValue_error failed]
    · rcases bind_error failed with failed | ⟨_, _, failed⟩
      · simp [keys, getIntValue_error failed]
      · cases failed
  rcases bind_error failed with failed | ⟨_, _, failed⟩
  · simp [keys, getStringArrayValue_error failed]
  rcases bind_error failed with failed | ⟨_, _, failed⟩
  · simp [keys, getStringArrayValue_error failed]
  rcases bind_error failed with failed | ⟨_, _, failed⟩
  · simp [keys, getStringValue_error failed]
  · cases failed

end KubernetesCoordinatorConfig

end Coordinator
