import Demonstrator.Celix.SampleQueue.Sections
import Mathlib.Logic.Function.Basic

namespace Celix.DataStore

variable {Result : Type}

def MAX_STORE_SIZE : Nat := 100000

/-- An element of the list: the pointer, and the result that was passed when it was appended. -/
structure Slot (Result : Type) where
  buffer : Nat
  passed : Result
  deriving DecidableEq, Repr

/-- `struct data_store` without its names and locks. The list pointer is `none` once it is NULL. -/
structure Store (Result : Type) where
  store : Option (List (Slot Result))
  currentStoreSize : Int
  deriving DecidableEq, Repr

def Store.create : Store Result := ⟨some [], 0⟩

def IsStoreFull (slots : List (Slot Result)) : Prop :=
  ¬ (MAX_STORE_SIZE = 0 ∨ slots.length < MAX_STORE_SIZE)

instance (slots : List (Slot Result)) : Decidable (IsStoreFull slots) := inferInstanceAs (Decidable (¬ (_ ∨ _)))

/-- The result buffers by handle, `none` when released or not allocated; which of them the callers have
    allocated; and the data stores. -/
structure System (Result : Type) where
  heap : Nat → Option Result
  callers : Nat → Bool
  stores : Nat → Store Result

def System.initial : System Result := ⟨fun _ => none, fun _ => false, fun _ => .create⟩

namespace System

def append (s : System Result) (d : Nat) (slots : List (Slot Result)) (slot : Slot Result) : System Result :=
  { s with
    stores := Function.update s.stores d ⟨some (slots ++ [slot]), (s.stores d).currentStoreSize + 1⟩ }

/-- `dataStore_store`. The list gets the caller's pointer; `add` is the answer of `arrayList_add`. -/
def store (s : System Result) (d result : Nat) (passed : Result) (add : Bool) : System Result × Status :=
  match (s.stores d).store with
  | none => (s, .illegalState)
  | some slots =>
    if IsStoreFull slots then (s, .enomem)
    else if add then (s.append d slots ⟨result, passed⟩, .success)
    else (s, .success)

def allocate (s : System Result) (buffer : Nat) (contents : Result) (caller : Bool) : System Result :=
  { s with
    heap := Function.update s.heap buffer (some contents)
    callers := Function.update s.callers buffer caller }

structure Pass where
  calloc : Option Nat
  add : Bool
  deriving DecidableEq, Repr

structure Burst (Result : Type) where
  system : System Result
  resultsAdded : Nat
  status : Status

/-- The loop of `dataStore_storeAll`, with the copy of each result. `none` when the environment hands out a
    buffer that is in use. -/
def storeAllLoop (d : Nat) : List (Result × Pass) → Burst Result → Option (Burst Result)
  | [], burst => some burst
  | (result, pass) :: rest, burst =>
    match (burst.system.stores d).store with
    | none => some burst
    | some slots =>
      if IsStoreFull slots then some burst
      else
        match pass.calloc with
        | none => some { burst with status := .enomem }
        | some copy =>
          if burst.system.heap copy = none then
            let copied := burst.system.allocate copy result false
            if pass.add then
              storeAllLoop d rest
                { burst with system := copied.append d slots ⟨copy, result⟩, resultsAdded := burst.resultsAdded + 1 }
            else storeAllLoop d rest { burst with system := copied }
          else none

def storeAll (s : System Result) (d : Nat) (results : List (Result × Pass)) : Option (System Result × Status) :=
  match (s.stores d).store with
  | none => some (s, .illegalState)
  | some _ =>
    (storeAllLoop d results ⟨s, 0, .success⟩).map fun burst =>
      -- an ENOMEM of the loop is not masked
      (burst.system, if burst.resultsAdded ≠ results.length ∧ burst.status = .success then .bundleException
        else burst.status)

def destroy (s : System Result) (d : Nat) (slots : List (Slot Result)) : System Result :=
  { s with
    heap := fun buffer => if buffer ∈ slots.map Slot.buffer then none else s.heap buffer
    stores := Function.update s.stores d { s.stores d with store := none } }

end System

inductive Action (Result : Type) where
  | alloc (buffer : Nat) (contents : Result)
  | overwrite (buffer : Nat) (contents : Result)
  | release (buffer : Nat)
  | store (d result : Nat) (add : Bool)
  | storeAll (d : Nat) (results : List (Result × System.Pass))
  | destroy (d : Nat)

def step (s : System Result) : Action Result → Option (System Result)
  | .alloc buffer contents => if s.heap buffer = none then some (s.allocate buffer contents true) else none
  | .overwrite buffer contents =>
    if s.callers buffer ∧ s.heap buffer ≠ none then
      some { s with heap := Function.update s.heap buffer (some contents) }
    else none
  | .release buffer =>
    if s.callers buffer ∧ s.heap buffer ≠ none then some { s with heap := Function.update s.heap buffer none }
    else none
  | .store d result add =>
    if s.callers result then (s.heap result).map fun passed => (s.store d result passed add).1 else none
  | .storeAll d results => (s.storeAll d results).map Prod.fst
  | .destroy d => (s.stores d).store.map (s.destroy d)

/-- `processor_sendResult`, and its callers with one sample: a burst releases the result, a single sample
    keeps it. -/
def sendResult (registered : List Nat) (result : Nat) : List (Action Result) :=
  registered.map fun d => .store d result true

def receiveBursts (registered : List Nat) (result : Nat) (contents : Result) : List (Action Result) :=
  .alloc result contents :: sendResult registered result ++ [.release result]

def receiveSamples (registered : List Nat) (result : Nat) (contents : Result) : List (Action Result) :=
  .alloc result contents :: sendResult registered result

end Celix.DataStore
