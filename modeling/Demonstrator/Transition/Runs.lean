import Mathlib.Data.Option.Basic

namespace Transition

variable {State Action : Type}

def exec (step : State → Action → Option State) (state : State) : List Action → Option State
  | [] => some state
  | action :: rest => (step state action).bind fun next => exec step next rest

theorem exec_cons_some {step : State → Action → Option State} {state final : State}
    {action : Action} {rest : List Action} :
    exec step state (action :: rest) = some final ↔
      ∃ next, step state action = some next ∧ exec step next rest = some final := by
  simp [exec, Option.bind_eq_some_iff]

theorem exec_append (step : State → Action → Option State) (state : State) (first later : List Action) :
    exec step state (first ++ later) = (exec step state first).bind fun next => exec step next later := by
  induction first generalizing state with
  | nil => rfl
  | cons action rest ih =>
    rw [List.cons_append, exec, exec, Option.bind_assoc]
    exact congrArg _ (funext fun next => ih next)

theorem exec_invariant {step : State → Action → Option State} {inv : State → Prop}
    (preserved : ∀ state action next, inv state → step state action = some next → inv next)
    {state final : State} {actions : List Action}
    (start : inv state) (run : exec step state actions = some final) : inv final := by
  induction actions generalizing state with
  | nil =>
    cases run
    exact start
  | cons action rest ih =>
    obtain ⟨next, first, later⟩ := exec_cons_some.mp run
    exact ih (preserved state action next start first) later

/-- Every step of the run is taken in a state where the guard allows it. -/
def Meets (step : State → Action → Option State) (guard : State → Action → Prop) (state : State) :
    List Action → Prop
  | [] => True
  | action :: rest =>
    guard state action ∧ ∀ next, step state action = some next → Meets step guard next rest

theorem meets_cons {step : State → Action → Option State} {guard : State → Action → Prop}
    {state next : State} {action : Action} {rest : List Action} (allowed : guard state action)
    (first : step state action = some next) (later : Meets step guard next rest) :
    Meets step guard state (action :: rest) := by
  refine ⟨allowed, fun other taken => ?_⟩
  cases first.symm.trans taken
  exact later

theorem meets_cons_iff {step : State → Action → Option State} {guard : State → Action → Prop}
    {state next : State} {action : Action} {rest : List Action} (first : step state action = some next) :
    guard state action ∧ Meets step guard next rest ↔ Meets step guard state (action :: rest) :=
  ⟨fun meets => meets_cons meets.1 first meets.2, fun meets => ⟨meets.1, meets.2 next first⟩⟩

theorem meets_stuck_iff {step : State → Action → Option State} {guard : State → Action → Prop}
    {state : State} {action : Action} {rest : List Action} (stuck : step state action = none) :
    guard state action ↔ Meets step guard state (action :: rest) := by
  constructor
  · intro allowed
    refine ⟨allowed, fun next taken => ?_⟩
    cases stuck.symm.trans taken
  · exact And.left

theorem meets_snoc {step : State → Action → Option State} {guard : State → Action → Prop} {state : State}
    {actions : List Action} {last : Action} (meets : Meets step guard state actions)
    (free : ∀ final, guard final last) : Meets step guard state (actions ++ [last]) := by
  induction actions generalizing state with
  | nil => exact ⟨free state, fun _ _ => True.intro⟩
  | cons action rest ih => exact ⟨meets.1, fun next taken => ih (meets.2 next taken)⟩

theorem meets_of_forall {step : State → Action → Option State} {allowed : Action → Prop} (state : State)
    {actions : List Action} (all : ∀ action ∈ actions, allowed action) :
    Meets step (fun _ => allowed) state actions := by
  induction actions generalizing state with
  | nil => exact True.intro
  | cons action rest ih =>
    obtain ⟨first, later⟩ := List.forall_mem_cons.mp all
    exact ⟨first, fun next _ => ih next later⟩

theorem Meets.and {step : State → Action → Option State} {guard other : State → Action → Prop} {state : State}
    {actions : List Action} (meets : Meets step guard state actions) (others : Meets step other state actions) :
    Meets step (fun state action => guard state action ∧ other state action) state actions := by
  induction actions generalizing state with
  | nil => exact True.intro
  | cons action rest ih =>
    exact ⟨⟨meets.1, others.1⟩, fun next taken => ih (meets.2 next taken) (others.2 next taken)⟩

instance Meets.decidable {step : State → Action → Option State} {guard : State → Action → Prop}
    [∀ state action, Decidable (guard state action)] (state : State) :
    (actions : List Action) → Decidable (Meets step guard state actions)
  | [] => isTrue True.intro
  | action :: rest =>
    match taken : step state action with
    | none => decidable_of_iff (guard state action) (meets_stuck_iff taken)
    | some next =>
      have : Decidable (Meets step guard next rest) := Meets.decidable next rest
      decidable_of_iff (guard state action ∧ Meets step guard next rest) (meets_cons_iff taken)

theorem meets_invariant {step : State → Action → Option State} {guard : State → Action → Prop}
    {inv : State → Prop}
    (preserved : ∀ state action next,
      inv state → guard state action → step state action = some next → inv next)
    {state final : State} {actions : List Action}
    (start : inv state) (meets : Meets step guard state actions)
    (run : exec step state actions = some final) : inv final := by
  induction actions generalizing state with
  | nil =>
    cases run
    exact start
  | cons action rest ih =>
    obtain ⟨next, first, later⟩ := exec_cons_some.mp run
    obtain ⟨allowed, remaining⟩ := meets
    exact ih (preserved state action next start allowed first) (remaining next first) later

def Always (step : State → Action → Option State) (property : State → Prop) (state : State) : List Action → Prop
  | [] => property state
  | action :: rest =>
    property state ∧ ∀ next, step state action = some next → Always step property next rest

theorem Always.head {step : State → Action → Option State} {property : State → Prop} {state : State}
    {actions : List Action} (always : Always step property state actions) : property state := by
  cases actions with
  | nil => exact always
  | cons action rest => exact always.1

/-- The exact guard of a property: when each step keeps it just if its guard holds, then the property
    holds all along a run just if the run meets the guard. -/
theorem always_iff_meets {step : State → Action → Option State} {guard : State → Action → Prop}
    {property : State → Prop}
    (exact' : ∀ state action next, property state → step state action = some next →
      (property next ↔ guard state action))
    (disabled : ∀ state action, property state → step state action = none → guard state action)
    {state : State} (start : property state) (actions : List Action) :
    Always step property state actions ↔ Meets step guard state actions := by
  induction actions generalizing state with
  | nil => exact ⟨fun _ => True.intro, fun _ => start⟩
  | cons action rest ih =>
    cases taken : step state action with
    | none => simp [Always, Meets, taken, start, disabled state action start taken]
    | some next =>
      have kept := exact' state action next start taken
      constructor
      · intro always
        have later := always.2 next taken
        exact meets_cons (kept.mp later.head) taken ((ih later.head).mp later)
      · intro meets
        refine ⟨start, fun other reached => ?_⟩
        cases taken.symm.trans reached
        exact (ih (kept.mpr meets.1)).mpr (meets.2 next taken)

def Along (step : State → Action → Option State) (property : State → Action → State → Prop) (state : State) :
    List Action → Prop
  | [] => True
  | action :: rest =>
    ∀ next, step state action = some next → property state action next ∧ Along step property next rest

theorem along_iff_meets {step : State → Action → Option State} {guard : State → Action → Prop}
    {property : State → Action → State → Prop} {inv : State → Prop}
    (preserved : ∀ state action next, inv state → step state action = some next → inv next)
    (exact' : ∀ state action next, inv state → step state action = some next →
      (property state action next ↔ guard state action))
    (disabled : ∀ state action, inv state → step state action = none → guard state action)
    {state : State} (start : inv state) (actions : List Action) :
    Along step property state actions ↔ Meets step guard state actions := by
  induction actions generalizing state with
  | nil => exact Iff.rfl
  | cons action rest ih =>
    cases taken : step state action with
    | none => simp [Along, Meets, taken, disabled state action start taken]
    | some next =>
      have later := ih (preserved state action next start taken)
      constructor
      · intro along
        obtain ⟨here, rest⟩ := along next taken
        exact meets_cons ((exact' state action next start taken).mp here) taken (later.mp rest)
      · intro meets other reached
        cases taken.symm.trans reached
        exact ⟨(exact' state action next start taken).mpr meets.1, later.mpr (meets.2 next taken)⟩

end Transition
