import Demonstrator.Java.Servlet.Parameters
import Demonstrator.Transition.Runs
import Demonstrator.Transition.Updates

namespace Servlet.Registration

open Transition

/-- The value of a service property: a string, or another object, by its `toString`. -/
inductive Property where
  | string (text : String)
  | object (text : String)
  deriving DecidableEq, Repr

structure ServiceReference where
  id : Nat
  aggregator : Option Property
  type : Option Property
  deriving DecidableEq, Repr

def ServiceReference.isAggregator (ref : ServiceReference) : Bool := ref.aggregator == some (.string "true")

def ServiceReference.typeText (ref : ServiceReference) : String :=
  match ref.type with
  | none => "null"
  | some (.string text) | some (.object text) => text

/-- The upper case of the long s is the letter S. -/
def sameLetter (letter c : Char) : Bool := c.toLower == letter || (letter == 's' && c == 'ſ')

/-- `String.equalsIgnoreCase` with a word of lower-case letters other than i and k. -/
def equalsIgnoreCase (word : String) (text : String) : Bool :=
  word.length == text.length && (word.toList.zip text.toList).all fun pair => sameLetter pair.1 pair.2

variable {Provider : Type}

/-- The fields of the servlet that follow the providers; `providerStats` with the provider of each container. -/
structure State (Provider : Type) where
  aggregator : Option Provider
  processorCount : Int32
  producerCount : Int32
  providerStats : ServiceReference → Option Provider

def State.initial : State Provider := ⟨none, 0, 0, fun _ => none⟩

inductive Callback (Provider : Type) where
  | addStatsProvider (serviceRef : ServiceReference) (provider : Provider)
  | removeStatsProvider (serviceRef : ServiceReference) (provider : Provider)

def State.count (s : State Provider) (serviceRef : ServiceReference) (change : Int32) : State Provider :=
  if equalsIgnoreCase "processor" serviceRef.typeText then { s with processorCount := s.processorCount + change }
  else if equalsIgnoreCase "producer" serviceRef.typeText then { s with producerCount := s.producerCount + change }
  else s

def State.addStatsProvider (s : State Provider) (serviceRef : ServiceReference) (provider : Provider) : State Provider :=
  let named := if serviceRef.isAggregator then { s with aggregator := some provider } else s
  let counted := named.count serviceRef 1
  -- `putIfAbsent`
  if (counted.providerStats serviceRef).isSome then counted
  else { counted with providerStats := Function.update counted.providerStats serviceRef (some provider) }

def State.removeStatsProvider (s : State Provider) (serviceRef : ServiceReference) : State Provider :=
  let named := if serviceRef.isAggregator then { s with aggregator := none } else s
  let counted := named.count serviceRef (-1)
  { counted with providerStats := Function.update counted.providerStats serviceRef none }

/-- A reference is added at most once before it is removed. -/
def step (s : State Provider) : Callback Provider → Option (State Provider)
  | .addStatsProvider serviceRef provider =>
    if (s.providerStats serviceRef).isSome then none else some (s.addStatsProvider serviceRef provider)
  | .removeStatsProvider serviceRef _ =>
    if (s.providerStats serviceRef).isSome then some (s.removeStatsProvider serviceRef) else none

def State.utilisation (s : State Provider) : Except Exit Provider :=
  match s.aggregator with
  | none => .error .nullPointerException
  | some provider => .ok provider

def State.Registered (s : State Provider) (serviceRef : ServiceReference) (provider : Provider) : Prop :=
  s.providerStats serviceRef = some provider ∧ serviceRef.isAggregator = true

/-- The aggregator is null iff none is registered, and else one of the registered. -/
def Follows (s : State Provider) : Prop :=
  (s.aggregator = none ↔ ∀ serviceRef provider, ¬ s.Registered serviceRef provider) ∧
    ∀ provider, s.aggregator = some provider → ∃ serviceRef, s.Registered serviceRef provider

/-- An aggregator is removed only as the last one. -/
def RemovesLast (s : State Provider) : Callback Provider → Prop
  | .addStatsProvider _ _ => True
  | .removeStatsProvider serviceRef _ => (∃ provider, s.Registered serviceRef provider) →
      ∀ other provider, s.Registered other provider → other = serviceRef

section Callbacks

variable {s : State Provider} {serviceRef : ServiceReference}

@[simp] theorem count_aggregator (change : Int32) : (s.count serviceRef change).aggregator = s.aggregator := by
  unfold State.count
  split <;> [rfl; split <;> rfl]

@[simp] theorem count_providerStats (change : Int32) :
    (s.count serviceRef change).providerStats = s.providerStats := by
  unfold State.count
  split <;> [rfl; split <;> rfl]

theorem addStatsProvider_aggregator (s : State Provider) (serviceRef : ServiceReference) (provider : Provider) :
    (s.addStatsProvider serviceRef provider).aggregator =
      if serviceRef.isAggregator then some provider else s.aggregator := by
  by_cases aggregating : serviceRef.isAggregator = true <;>
    by_cases present : (s.providerStats serviceRef).isSome = true <;>
    simp [State.addStatsProvider, aggregating, present]

theorem addStatsProvider_registered {other : ServiceReference} {provider found : Provider}
    (absent : s.providerStats serviceRef = none) :
    (s.addStatsProvider serviceRef provider).Registered other found ↔
      (other = serviceRef ∧ found = provider ∧ serviceRef.isAggregator = true) ∨
        (other ≠ serviceRef ∧ s.Registered other found) := by
  have stored : (s.addStatsProvider serviceRef provider).providerStats =
      Function.update s.providerStats serviceRef (some provider) := by
    unfold State.addStatsProvider
    split <;> simp [absent]
  rw [State.Registered, stored, update_some_iff, or_and_right, and_assoc, and_assoc]
  apply or_congr_left
  constructor
  · rintro ⟨rfl, rest⟩
    exact ⟨rfl, rest⟩
  · rintro ⟨rfl, rest⟩
    exact ⟨rfl, rest⟩

theorem removeStatsProvider_aggregator (s : State Provider) (serviceRef : ServiceReference) :
    (s.removeStatsProvider serviceRef).aggregator = if serviceRef.isAggregator then none else s.aggregator := by
  by_cases aggregating : serviceRef.isAggregator = true <;> simp [State.removeStatsProvider, aggregating]

theorem removeStatsProvider_registered {other : ServiceReference} {found : Provider} :
    (s.removeStatsProvider serviceRef).Registered other found ↔ other ≠ serviceRef ∧ s.Registered other found := by
  have stored : (s.removeStatsProvider serviceRef).providerStats = Function.update s.providerStats serviceRef none := by
    unfold State.removeStatsProvider
    split <;> simp
  rw [State.Registered, stored, update_none_iff, and_assoc]
  rfl

theorem follows_congr {t : State Provider} (aggregator : t.aggregator = s.aggregator)
    (registered : ∀ other found, t.Registered other found ↔ s.Registered other found) : Follows t ↔ Follows s := by
  simp only [Follows, aggregator, registered]

theorem follows_add {provider : Provider} (follows : Follows s) (absent : s.providerStats serviceRef = none) :
    Follows (s.addStatsProvider serviceRef provider) := by
  have aggregator := addStatsProvider_aggregator s serviceRef provider
  by_cases aggregating : serviceRef.isAggregator = true
  · have here : (s.addStatsProvider serviceRef provider).Registered serviceRef provider :=
      (addStatsProvider_registered absent).mpr (.inl ⟨rfl, rfl, aggregating⟩)
    rw [if_pos aggregating] at aggregator
    refine ⟨⟨fun null => ?_, fun none => absurd here (none serviceRef provider)⟩, fun found same => ?_⟩
    · cases aggregator.symm.trans null
    · cases aggregator.symm.trans same
      exact ⟨serviceRef, here⟩
  · rw [if_neg aggregating] at aggregator
    refine (follows_congr aggregator fun other found => ?_).mpr follows
    rw [addStatsProvider_registered absent]
    constructor
    · rintro (⟨_, _, wrong⟩ | ⟨_, registered⟩)
      · exact absurd wrong aggregating
      · exact registered
    · intro registered
      refine .inr ⟨?_, registered⟩
      rintro rfl
      cases absent.symm.trans registered.1

/-- The removal of an aggregator forgets every other one. -/
theorem follows_remove {provider : Provider} (follows : Follows s)
    (present : s.providerStats serviceRef = some provider) :
    Follows (s.removeStatsProvider serviceRef) ↔
      ((∃ provider, s.Registered serviceRef provider) → ∀ other found, s.Registered other found → other = serviceRef) := by
  have aggregator := removeStatsProvider_aggregator s serviceRef
  by_cases aggregating : serviceRef.isAggregator = true
  · rw [if_pos aggregating] at aggregator
    constructor
    · intro kept _ other found registered
      by_contra different
      exact kept.1.mp aggregator other found (removeStatsProvider_registered.mpr ⟨different, registered⟩)
    · intro last
      refine ⟨⟨fun _ other found remaining => ?_, fun _ => aggregator⟩, fun found same => ?_⟩
      · obtain ⟨different, registered⟩ := removeStatsProvider_registered.mp remaining
        exact different (last ⟨provider, present, aggregating⟩ other found registered)
      · cases aggregator.symm.trans same
  · rw [if_neg aggregating] at aggregator
    have kept : Follows (s.removeStatsProvider serviceRef) := by
      refine (follows_congr aggregator fun other found => ?_).mpr follows
      rw [removeStatsProvider_registered]
      refine ⟨And.right, fun registered => ⟨?_, registered⟩⟩
      rintro rfl
      exact aggregating registered.2
    refine iff_of_true kept ?_
    rintro ⟨_, _, wrong⟩
    exact absurd wrong aggregating

end Callbacks

theorem follows_step (s : State Provider) (callback : Callback Provider) (t : State Provider) (follows : Follows s)
    (h : step s callback = some t) : Follows t ↔ RemovesLast s callback := by
  cases callback with
  | addStatsProvider serviceRef provider =>
    simp only [step] at h
    split at h <;> cases h
    rename_i absent
    exact iff_of_true (follows_add follows (by simpa using absent)) True.intro
  | removeStatsProvider serviceRef provider =>
    simp only [step] at h
    split at h <;> cases h
    rename_i present
    obtain ⟨found, stored⟩ := Option.isSome_iff_exists.mp present
    exact follows_remove follows stored

theorem removesLast_disabled (s : State Provider) (callback : Callback Provider) (_ : Follows s)
    (h : step s callback = none) : RemovesLast s callback := by
  cases callback with
  | addStatsProvider serviceRef provider => exact True.intro
  | removeStatsProvider serviceRef provider =>
    rintro ⟨found, stored, _⟩
    simp [step, stored] at h

/-- In every run of the callbacks the aggregator follows the providers exactly when no aggregator is removed
    beside another. -/
theorem aggregator_follows_iff (callbacks : List (Callback Provider)) :
    Always step Follows State.initial callbacks ↔ Meets step RemovesLast State.initial callbacks := by
  apply always_iff_meets follows_step removesLast_disabled
  refine ⟨⟨fun _ _ _ registered => ?_, fun _ => rfl⟩, fun _ wrong => ?_⟩
  · cases registered.1
  · cases wrong

def redeployment : List (Callback Nat) :=
  [.addStatsProvider ⟨0, some (.string "true"), some (.string "utilization")⟩ 10,
    .addStatsProvider ⟨1, some (.string "true"), some (.string "utilization")⟩ 11,
    .removeStatsProvider ⟨0, some (.string "true"), some (.string "utilization")⟩ 10]

theorem aggregator_lost :
    ¬ Always step Follows State.initial redeployment ∧
      ∃ s, exec step State.initial redeployment = some s ∧
        s.Registered ⟨1, some (.string "true"), some (.string "utilization")⟩ 11 ∧
        s.utilisation = .error .nullPointerException := by
  constructor
  · intro always
    have follows := ((always.2 _ rfl).2 _ rfl).2 _ rfl
    exact follows.1.mp rfl ⟨1, some (.string "true"), some (.string "utilization")⟩ 11 ⟨rfl, rfl⟩
  · exact ⟨_, rfl, ⟨rfl, rfl⟩, rfl⟩

end Servlet.Registration
