import Demonstrator.Java.Servlet.ScaleProducer
import Mathlib.Logic.Function.Basic

namespace Servlet.Post

open Coordinator

inductive Thrown where
  | nullPointerException
  | coordinator (failure : Failure)
  deriving DecidableEq, Repr

inductive Response where
  | badRequest
  | noContent
  deriving DecidableEq, Repr

/-- `m_productionRate`, `m_producers`, the rate of each producer, and the state behind `m_coordinator`. -/
structure State (Service : Type) where
  productionRate : Int32
  producers : List Nat
  rate : Nat → Int32
  coordinator : Service

structure Request where
  pathInfo : Option String
  value : ParameterValues
  deriving DecidableEq, Repr

variable {Service : Type}

/-- `setSampleRate`: the new rate of the producer, or none when one of its remote calls has thrown, which is only
    logged. -/
def State.setSampleRate (rateOf : Nat → Int32 → Option Int32) (newRate : Int32) (s : State Service) (producer : Nat) :
    State Service :=
  match rateOf producer newRate with
  | none => s
  | some rate => { s with rate := Function.update s.rate producer rate }

def doPost (service : CoordinatorService Service) (rateOf : Nat → Int32 → Option Int32) (s : State Service)
    (req : Request) : Except Thrown Response × State Service :=
  if req.pathInfo = some "/utilisation" then
    match getIntParameter req.value with
    | .error .nullPointerException => (.error .nullPointerException, s)
    | .ok none => (.ok .badRequest, s)
    | .ok (some value) =>
      if value < 0 ∨ 100 < value then (.ok .badRequest, s)
      else (.ok .noContent, s.producers.foldl (State.setSampleRate rateOf value) { s with productionRate := value })
  else if req.pathInfo = some "/scaleProducer" then
    match getIntParameter req.value with
    | .error .nullPointerException => (.error .nullPointerException, s)
    | .ok relReplicaCount =>
      match service.getReplicaCount s.coordinator .producer with
      | .error failure => (.error (.coordinator failure), s)
      | .ok currentReplicaCount =>
        match relReplicaCount with
        -- the unboxing of the sum
        | none => (.error .nullPointerException, s)
        | some change =>
          (.ok .noContent,
            { s with coordinator := (service.setReplicaCount s.coordinator .producer (currentReplicaCount + change)).1 })
  else (.ok .noContent, s)

def intLiteral : ParameterValues → Option Int32
  | some [value] => ConfigUtils.parseInt value
  | _ => none

def Malformed (req : Request) : Prop :=
  (req.pathInfo = some "/utilisation" ∧ ∀ value, intLiteral req.value = some value → value < 0 ∨ 100 < value) ∨
    (req.pathInfo = some "/scaleProducer" ∧ intLiteral req.value = none)

def Handled (service : CoordinatorService Service) (rateOf : Nat → Int32 → Option Int32) (s : State Service)
    (req : Request) : Prop :=
  (∃ response, (doPost service rateOf s req).1 = .ok response) ∧
    (Malformed req → doPost service rateOf s req = (.ok .badRequest, s))

/-- The value is there, and for `/scaleProducer` it is an int and the coordinator knows its count. -/
def Proper (service : CoordinatorService Service) (s : State Service) (req : Request) : Prop :=
  (req.pathInfo = some "/utilisation" → req.value ≠ none) ∧
    (req.pathInfo = some "/scaleProducer" → intLiteral req.value ≠ none ∧
      ∃ current, service.getReplicaCount s.coordinator .producer = .ok current)

section Paths

variable (service : CoordinatorService Service) (rateOf : Nat → Int32 → Option Int32) (s : State Service)

theorem getIntParameter_some (values : List String) : getIntParameter (some values) = .ok (intLiteral (some values)) := by
  match values with
  | [] => rfl
  | [value] => rfl
  | _ :: _ :: _ => rfl

theorem handled_utilisation (value : ParameterValues) :
    Handled service rateOf s ⟨some "/utilisation", value⟩ ↔ value ≠ none := by
  cases value with
  | none => simp [Handled, doPost, getIntParameter]
  | some values =>
    refine iff_of_true ?_ (Option.some_ne_none _)
    cases literal : intLiteral (some values) with
    | none => simp [Handled, doPost, getIntParameter_some, literal]
    | some number =>
      by_cases outside : number < 0 ∨ 100 < number
      · simp [Handled, doPost, getIntParameter_some, literal, outside]
      · simp [Handled, doPost, getIntParameter_some, literal, outside, Malformed]

theorem handled_scaleProducer (value : ParameterValues) :
    Handled service rateOf s ⟨some "/scaleProducer", value⟩ ↔
      intLiteral value ≠ none ∧ ∃ current, service.getReplicaCount s.coordinator .producer = .ok current := by
  cases value with
  | none => simp [Handled, doPost, getIntParameter, intLiteral]
  | some values =>
    cases count : service.getReplicaCount s.coordinator .producer with
    | error failure => simp [Handled, doPost, getIntParameter_some, count]
    | ok current =>
      cases literal : intLiteral (some values) with
      | none => simp [Handled, doPost, getIntParameter_some, count, literal]
      | some change => simp [Handled, doPost, getIntParameter_some, count, literal, Malformed]

theorem handled_other {req : Request} (utilisation : req.pathInfo ≠ some "/utilisation")
    (scaleProducer : req.pathInfo ≠ some "/scaleProducer") : Handled service rateOf s req := by
  simp [Handled, doPost, Malformed, utilisation, scaleProducer]

end Paths

/-- Every request is answered as it should be, and a malformed one changes nothing, exactly when it is proper. -/
theorem handled_iff (service : CoordinatorService Service) (rateOf : Nat → Int32 → Option Int32) (s : State Service)
    (req : Request) : Handled service rateOf s req ↔ Proper service s req := by
  obtain ⟨pathInfo, value⟩ := req
  by_cases utilisation : pathInfo = some "/utilisation"
  · subst utilisation
    rw [handled_utilisation]
    simp [Proper]
  · by_cases scaleProducer : pathInfo = some "/scaleProducer"
    · subst scaleProducer
      rw [handled_scaleProducer]
      simp [Proper]
    · refine iff_of_true (handled_other service rateOf s utilisation scaleProducer) ?_
      exact ⟨fun here => absurd here utilisation, fun here => absurd here scaleProducer⟩

def steady : CoordinatorService Unit := ⟨fun _ _ => 4, fun _ _ => .ok 2, fun s _ _ => (s, true)⟩

def servlet : State Unit := ⟨5, [0], fun _ => 50, ()⟩

theorem post_fails :
    ¬ Handled steady (fun _ newRate => some newRate) servlet ⟨some "/utilisation", none⟩ ∧
      (doPost steady (fun _ newRate => some newRate) servlet ⟨some "/utilisation", none⟩).1 =
        .error .nullPointerException ∧
      ¬ Handled steady (fun _ newRate => some newRate) servlet ⟨some "/scaleProducer", some ["one"]⟩ ∧
      (doPost steady (fun _ newRate => some newRate) servlet ⟨some "/scaleProducer", some ["one"]⟩).1 =
        .error .nullPointerException := by
  refine ⟨?_, rfl, ?_, rfl⟩
  · rw [handled_utilisation]
    exact fun present => present rfl
  · rw [handled_scaleProducer]
    exact fun proper => proper.1 (by decide)

section Links

variable (rateOf : Nat → Int32 → Option Int32)

theorem setSampleRate_productionRate (newRate : Int32) (producers : List Nat) (s : State Service) :
    (producers.foldl (State.setSampleRate rateOf newRate) s).productionRate = s.productionRate := by
  induction producers generalizing s with
  | nil => rfl
  | cons producer later ih =>
    rw [List.foldl_cons, ih, State.setSampleRate]
    split <;> rfl

theorem doPost_productionRate (service : CoordinatorService Service) (s : State Service) (value : ParameterValues) :
    (doPost service rateOf s ⟨some "/utilisation", value⟩).2.productionRate =
      (utilisationValue value).getD s.productionRate := by
  simp only [doPost, if_true, utilisationValue]
  split
  · rename_i absent
    simp [absent]
  · rename_i malformed
    simp [malformed]
  · rename_i number literal
    simp only [literal]
    split
    · rfl
    · rw [setSampleRate_productionRate]
      rfl

def backendService : CoordinatorService Backend :=
  ⟨Backend.getMaxReplicaCount, Backend.getReplicaCount, Backend.setReplicaCount⟩

theorem doPost_scaleProducer {n : Nat} {parameters : Fin n → ParameterValues} {request : Fin n} {current : Int32}
    {values : List String} (system : ScaleProducer.System n) (waiting : system.phase request = .waiting)
    (present : parameters request = some values)
    (count : system.coordinator.getReplicaCount .producer = .ok current) (s : State Backend)
    (same : s.coordinator = system.coordinator) :
    (Transition.exec (ScaleProducer.step parameters) system [.read request, .write request]).map
        ScaleProducer.System.coordinator =
      some (doPost backendService rateOf s ⟨some "/scaleProducer", parameters request⟩).2.coordinator := by
  have counted : backendService.getReplicaCount system.coordinator .producer = .ok current := count
  cases literal : intLiteral (some values) with
  | none =>
    simp [Transition.exec, ScaleProducer.step, ScaleProducer.System.move, waiting, present, count, doPost,
      getIntParameter_some, literal, counted, same]
  | some change =>
    simp [Transition.exec, ScaleProducer.step, ScaleProducer.System.move, waiting, present, count, doPost,
      getIntParameter_some, literal, same, backendService]

end Links

end Servlet.Post
