import Mathlib.Data.List.Basic

namespace Fifo

inductive Call (Item : Type) where
  | put (item : Item)
  | putAll (items : List Item)
  | take
  | takeBatch (min max : Nat)
  deriving DecidableEq, Repr

inductive Answer (Item : Type) where
  | put (accepted : Bool)
  | putAll (accepted : Nat)
  | take (item : Item)
  | takeBatch (items : List Item)
  deriving DecidableEq, Repr

variable {Item State : Type}

def respond (contents : List Item) : Call Item → Option (Answer Item × List Item)
  | .put item => some (.put true, contents ++ [item])
  | .putAll items => some (.putAll items.length, contents ++ items)
  | .take => contents.head?.map fun item => (.take item, contents.tail)
  | .takeBatch _ max => some (.takeBatch (contents.take max), contents.drop max)

def Suits (capacity : Nat) (contents : List Item) : Call Item → Prop
  | .put _ => contents.length < capacity
  | .putAll items => contents.length + items.length ≤ capacity
  | .take => 0 < contents.length
  | .takeBatch min _ => min ≤ contents.length

def session (answer : State → Call Item → Option (Answer Item × State)) (state : State) :
    List (Call Item) → Option (List (Answer Item) × State)
  | [] => some ([], state)
  | call :: later =>
    (answer state call).bind fun first =>
      (session answer first.2 later).map fun rest => (first.1 :: rest.1, rest.2)

def Within (capacity : Nat) (contents : List Item) : List (Call Item) → Prop
  | [] => True
  | call :: later =>
    Suits capacity contents call ∧
      ∀ answer left, respond contents call = some (answer, left) → Within capacity left later

/-- A queue answers a suitable call as the bounded FIFO does and holds what the FIFO holds. -/
structure Implements (capacity : Nat) (answer : State → Call Item → Option (Answer Item × State))
    (holds : State → List Item → Prop) : Prop where
  put : ∀ state contents item, holds state contents → contents.length < capacity →
    ∃ next, answer state (.put item) = some (.put true, next) ∧ holds next (contents ++ [item])
  putAll : ∀ state contents items, holds state contents → contents.length + items.length ≤ capacity →
    ∃ next, answer state (.putAll items) = some (.putAll items.length, next) ∧ holds next (contents ++ items)
  take : ∀ state item rest, holds state (item :: rest) →
    ∃ next, answer state .take = some (.take item, next) ∧ holds next rest
  takeBatch : ∀ state contents min max, holds state contents → min ≤ contents.length →
    ∃ next, answer state (.takeBatch min max) = some (.takeBatch (contents.take max), next) ∧
      holds next (contents.drop max)

section Refinement

variable {capacity : Nat} {answer : State → Call Item → Option (Answer Item × State)}
  {holds : State → List Item → Prop}

theorem Implements.step (implements : Implements capacity answer holds) {state : State} {contents : List Item}
    {call : Call Item} (held : holds state contents) (suits : Suits capacity contents call) :
    ∃ response left next, respond contents call = some (response, left) ∧
      answer state call = some (response, next) ∧ holds next left := by
  cases call with
  | put item =>
    obtain ⟨next, answered, kept⟩ := implements.put state contents item held suits
    exact ⟨_, _, next, rfl, answered, kept⟩
  | putAll items =>
    obtain ⟨next, answered, kept⟩ := implements.putAll state contents items held suits
    exact ⟨_, _, next, rfl, answered, kept⟩
  | take =>
    cases contents with
    | nil => cases suits
    | cons item rest =>
      obtain ⟨next, answered, kept⟩ := implements.take state item rest held
      exact ⟨_, _, next, rfl, answered, kept⟩
  | takeBatch min max =>
    obtain ⟨next, answered, kept⟩ := implements.takeBatch state contents min max held suits
    exact ⟨_, _, next, rfl, answered, kept⟩

theorem Implements.session (implements : Implements capacity answer holds) (calls : List (Call Item))
    {state : State} {contents : List Item} (held : holds state contents) (within : Within capacity contents calls) :
    ∃ responses left final, session respond contents calls = some (responses, left) ∧
      session answer state calls = some (responses, final) ∧ holds final left := by
  induction calls generalizing state contents with
  | nil => exact ⟨[], contents, state, rfl, rfl, held⟩
  | cons call later ih =>
    obtain ⟨suits, rest⟩ := within
    obtain ⟨response, left, next, responded, answered, kept⟩ := implements.step held suits
    obtain ⟨responses, last, final, expected, given, stored⟩ := ih kept (rest response left responded)
    refine ⟨response :: responses, last, final, ?_, ?_, stored⟩
    · simp [Fifo.session, responded, expected]
    · simp [Fifo.session, answered, given]

end Refinement

section Filling

variable (capacity : Nat) (contents : List Item)

def fitting (batch : List Item) : List Item := batch.take (capacity - contents.length)

@[simp] theorem fitting_nil : fitting capacity contents [] = [] := List.take_nil

theorem fitting_cons_of_room (item : Item) (rest : List Item) (room : contents.length < capacity) :
    fitting capacity contents (item :: rest) = item :: fitting capacity (contents ++ [item]) rest := by
  have left : capacity - contents.length = capacity - (contents ++ [item]).length + 1 := by
    rw [List.length_append, List.length_singleton]
    omega
  rw [fitting, left, List.take_succ_cons]
  rfl

theorem fitting_of_le {batch : List Item} (room : contents.length + batch.length ≤ capacity) :
    fitting capacity contents batch = batch := List.take_of_length_le (by omega)

theorem fitting_of_full (batch : List Item) (full : ¬ contents.length < capacity) :
    fitting capacity contents batch = [] := by
  rw [fitting, Nat.sub_eq_zero_of_le (Nat.not_lt.mp full), List.take_zero]

end Filling

end Fifo
