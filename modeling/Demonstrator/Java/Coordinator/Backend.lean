import Demonstrator.Java.Coordinator.Contract

namespace Coordinator

open Arithmetic

def Cluster.report (c : Cluster) (status : String → String → Int32) : Cluster :=
  { c with controllers := fun ns name =>
      (c.controllers ns name).map fun replicas => { replicas with status := status ns name } }

theorem Cluster.report_spec (c : Cluster) (status : String → String → Int32) (ns name : String) :
    (c.report status).spec ns name = c.spec ns name := by
  cases found : c.controllers ns name <;> simp [report, spec, found]

theorem Cluster.report_serves {c : Cluster} {ns : String} {names : List String} (serves : c.Serves ns names)
    (status : String → String → Int32) : (c.report status).Serves ns names := by
  intro name member
  obtain ⟨present, scalable⟩ := serves name member
  exact ⟨by simpa [report] using present, scalable⟩

inductive Backend where
  | stub (env : StubEnvironment) (s : StubCoordinator)
  | kubernetes (k : KubernetesCoordinator)

namespace Backend

def getMaxReplicaCount : Backend → ServiceType → Int32
  | .stub _ s, type => s.config.getMaxReplicaCount type
  | .kubernetes k, type => k.config.getMaxReplicaCount type

def getReplicaCount : Backend → ServiceType → Except Failure Int32
  | .stub _ s, type => .ok (s.getReplicaCount type)
  | .kubernetes k, type => k.getReplicaCount type

def setReplicaCount : Backend → ServiceType → Int32 → Backend × Bool
  | .stub env s, type, number =>
    let result := s.setReplicaCount env type number
    (.stub env result.1, result.2)
  | .kubernetes k, type, number =>
    let result := k.setReplicaCount type number
    (.kubernetes result.1, result.2)

/-- Between two calls only the cluster changes: it carries out a scaling, or loses replicas. -/
def drift (status : String → String → Int32) : Backend → Backend
  | .stub env s => .stub env s
  | .kubernetes k => .kubernetes { k with cluster := k.cluster.report status }

def Reliable (type : ServiceType) : Backend → Prop
  | .stub env s => (∀ ba, env.starts ba = true) ∧
      ((s.services type).length : Int) ≤ (s.config.getMaxReplicaCount type).toInt
  | .kubernetes k => k.Serves type

def DistinctNames (type : ServiceType) : Backend → Prop
  | .stub _ _ => True
  | .kubernetes k => (k.config.controllerNames type).names.Nodup

/-- A request for this number is not dropped halfway because a scaling is in progress. -/
def TakesEffect (type : ServiceType) (number : Int32) : Backend → Prop
  | .stub _ _ => True
  | .kubernetes k => k.AddsUp type number

def Settled (type : ServiceType) : Backend → Prop
  | .stub _ _ => True
  | .kubernetes k => k.Settled type

theorem Settled.takesEffect {b : Backend} {type : ServiceType} (settled : b.Settled type) (number : Int32)
    (reliable : b.Reliable type) (distinct : b.DistinctNames type) (nonnegative : 0 ≤ number)
    (maximum : 0 ≤ b.getMaxReplicaCount type) : b.TakesEffect type number := by
  cases b with
  | stub env s => exact True.intro
  | kubernetes k =>
    exact KubernetesCoordinator.Settled.addsUp settled number distinct reliable nonnegative maximum

@[simp] theorem set_maximum (b : Backend) (type other : ServiceType) (number : Int32) :
    (b.setReplicaCount type number).1.getMaxReplicaCount other = b.getMaxReplicaCount other := by
  cases b with
  | stub env s =>
    exact congrArg (fun config => CoordinatorConfig.getMaxReplicaCount config other)
      (s.set_config env type number)
  | kubernetes k =>
    exact congrArg (fun config => config.getMaxReplicaCount other) (k.set_config type number)

theorem set_reliable {b : Backend} {type : ServiceType} (reliable : b.Reliable type) (requested : ServiceType)
    (number : Int32) : (b.setReplicaCount requested number).1.Reliable type := by
  cases b with
  | stub env s =>
    obtain ⟨starts, sized⟩ := reliable
    have fits : (((s.setReplicaCount env requested number).1.services type).length : Int) ≤
        (s.config.getMaxReplicaCount type).toInt := by
      by_cases same : type = requested
      · subst same
        by_cases within : 0 ≤ number ∧ number ≤ s.config.getMaxReplicaCount type
        · rw [StubCoordinator.set_within env starts s type number sized within.1 within.2]
          exact Int32.le_iff_toInt_le.mp within.2
        · rw [StubCoordinator.set_outside env s type number (outside_of_not_within within)]
          exact sized
      · rw [StubCoordinator.set_other env s requested type number same]
        exact sized
    have config := StubCoordinator.set_config env s requested number
    exact ⟨starts, config.symm ▸ fits⟩
  | kubernetes k =>
    exact k.set_serves requested type number reliable

theorem set_distinctNames {b : Backend} {type : ServiceType} (distinct : b.DistinctNames type)
    (requested : ServiceType) (number : Int32) :
    (b.setReplicaCount requested number).1.DistinctNames type := by
  cases b with
  | stub env s => exact True.intro
  | kubernetes k =>
    have kept := k.set_config requested number
    simp only [DistinctNames, setReplicaCount, kept]
    exact distinct

theorem set_within {b : Backend} {type : ServiceType} {number : Int32} (reliable : b.Reliable type)
    (effect : b.TakesEffect type number) (low : 0 ≤ number) (high : number ≤ b.getMaxReplicaCount type) :
    (b.setReplicaCount type number).1.getReplicaCount type = .ok number := by
  cases b with
  | stub env s =>
    obtain ⟨starts, sized⟩ := reliable
    exact congrArg Except.ok (StubCoordinator.getReplicaCount_set_within env starts s type number sized low high)
  | kubernetes k =>
    have maximum : 0 ≤ k.config.getMaxReplicaCount type := Int32.le_trans low high
    have count := (k.getReplicaCount_set_clamped_iff type number reliable low maximum).mpr effect
    rw [clamped_of_le k type number high] at count
    exact count

theorem set_beyond {b : Backend} {type : ServiceType} {number : Int32} (reliable : b.Reliable type)
    (effect : b.TakesEffect type number) (maximum : 0 ≤ b.getMaxReplicaCount type)
    (beyond : b.getMaxReplicaCount type < number) :
    (b.setReplicaCount type number).1.getReplicaCount type = b.getReplicaCount type ∨
      (b.setReplicaCount type number).1.getReplicaCount type = .ok (b.getMaxReplicaCount type) := by
  cases b with
  | stub env s =>
    have kept := StubCoordinator.set_outside env s type number (.inr beyond)
    left
    exact congrArg (fun result => Except.ok (result.1.getReplicaCount type)) kept
  | kubernetes k =>
    have low : 0 ≤ number := Int32.le_trans maximum (Int32.le_of_lt beyond)
    have count := (k.getReplicaCount_set_clamped_iff type number reliable low maximum).mpr effect
    rw [clamped_of_lt k type number beyond] at count
    right
    exact count

theorem drift_count (b : Backend) (type : ServiceType) (status : String → String → Int32)
    (reliable : b.Reliable type) : (b.drift status).getReplicaCount type = b.getReplicaCount type := by
  cases b with
  | stub env s => rfl
  | kubernetes k =>
    have served := k.getReplicaCount_served type reliable
    have after := KubernetesCoordinator.getReplicaCount_served { k with cluster := k.cluster.report status } type
      (Cluster.report_serves reliable status)
    have specs : (k.cluster.report status).spec k.config.k8sNamespace = k.cluster.spec k.config.k8sNamespace :=
      funext fun name => Cluster.report_spec k.cluster status k.config.k8sNamespace name
    simp only [drift, getReplicaCount]
    rw [served, after, specs]

theorem drift_reliable {b : Backend} {type : ServiceType} (reliable : b.Reliable type)
    (status : String → String → Int32) : (b.drift status).Reliable type := by
  cases b with
  | stub env s => exact reliable
  | kubernetes k => exact Cluster.report_serves reliable status

theorem drift_distinctNames {b : Backend} {type : ServiceType} (distinct : b.DistinctNames type)
    (status : String → String → Int32) : (b.drift status).DistinctNames type := by
  cases b with
  | stub env s => exact True.intro
  | kubernetes k => exact distinct

@[simp] theorem drift_maximum (b : Backend) (type : ServiceType) (status : String → String → Int32) :
    (b.drift status).getMaxReplicaCount type = b.getMaxReplicaCount type := by
  cases b <;> rfl

end Backend

end Coordinator
