import Demonstrator.Arithmetic.Int32
import Demonstrator.Java.Pipeline.Rounds
import Demonstrator.Transition.Runs
import Mathlib.Algebra.BigOperators.Group.List.Basic
import Mathlib.Tactic.Linarith

namespace Pipeline

open Transition Arithmetic

inductive Request where
  | store (result : Result)
  | storeAll (results : List Result)
  deriving DecidableEq

def Request.results : Request → List Result
  | .store result => [result]
  | .storeAll results => results

/-- `Collection.size()`, which saturates. -/
def javaSize {Item : Type} (items : List Item) : Int32 := Int32.ofNat (min items.length (2 ^ 31 - 1))

def MAX_STORE_SIZE : Int32 := Int32.ofNat maxStoreSize

/-- The test of the request. The sum of `storeAll` is an int. -/
def Request.passes (store : List Result) : Request → Bool
  | .store _ => javaSize store < MAX_STORE_SIZE
  | .storeAll results => javaSize store + javaSize results < MAX_STORE_SIZE

/-- The `add` or `addAll` of the list: a new array of the summed length, which cannot be made when the
    sum is not an int. -/
def Request.append (store : List Result) (request : Request) : List Result :=
  if store.length + request.results.length < 2 ^ 31 then store ++ request.results else store

/-- `InMemoryDataStore`, with the requests of its clients that are past their test and have not
    appended yet. -/
structure InMemoryDataStore where
  store : List Result
  passed : List Request

namespace InMemoryDataStore

def create : InMemoryDataStore := ⟨[], []⟩

def getValue (s : InMemoryDataStore) : ℚ := (100 * s.store.length) / maxStoreSize

inductive Access where
  | check (request : Request)
  | append (request : Request)
  deriving DecidableEq

def step (s : InMemoryDataStore) : Access → Option InMemoryDataStore
  | .check request =>
    if request.passes s.store then some { s with passed := request :: s.passed } else some s
  | .append request =>
    if request ∈ s.passed then some ⟨request.append s.store, s.passed.erase request⟩ else none

/-- How much a request past its test will add. One with more results than the store can hold has passed
    by an overflow of the sum, and its `addAll` will fail. -/
def pending (request : Request) : Nat :=
  if request.results.length ≤ maxStoreSize then request.results.length else 0

/-- A request passes its test only while there is room for it beside the requests already past theirs. -/
def RoomForPassed (s : InMemoryDataStore) : Access → Prop
  | .check request => request.passes s.store = true →
      s.store.length + (s.passed.map pending).sum + pending request ≤ maxStoreSize
  | .append _ => True

structure Reserved (s : InMemoryDataStore) : Prop where
  room : s.store.length + (s.passed.map pending).sum ≤ maxStoreSize
  fits : ∀ request ∈ s.passed,
    request.results.length ≤ maxStoreSize ∨ 2 ^ 31 ≤ s.store.length + request.results.length

theorem javaSize_toInt {Item : Type} (items : List Item) :
    (javaSize items).toInt = min items.length (2 ^ 31 - 1) := by
  rw [javaSize, Int32.toInt_ofNat_of_lt (by omega)]

theorem passes_fits (store : List Result) (request : Request)
    (passes : request.passes store = true) :
    request.results.length ≤ maxStoreSize ∨ 2 ^ 31 ≤ store.length + request.results.length := by
  cases request with
  | store result =>
    left
    simp [Request.results, maxStoreSize]
  | storeAll results =>
    simp only [Request.results]
    by_cases overflow : 2 ^ 31 ≤ store.length + results.length
    · exact .inr overflow
    · left
      have limit : MAX_STORE_SIZE.toInt = maxStoreSize := rfl
      have here := javaSize_toInt store
      have new := javaSize_toInt results
      simp only [Request.passes, decide_eq_true_eq, Int32.lt_iff_toInt_lt] at passes
      rw [toInt_add_of_range (by omega) (by omega), limit] at passes
      omega

theorem append_length (store : List Result) (request : Request)
    (fits : request.results.length ≤ maxStoreSize ∨ 2 ^ 31 ≤ store.length + request.results.length) :
    (request.append store).length ≤ store.length + pending request := by
  unfold Request.append pending
  split
  · rename_i room
    rw [if_pos (fits.resolve_right (by omega)), List.length_append]
  · exact Nat.le_add_right ..

theorem length_le_append (store : List Result) (request : Request) :
    store.length ≤ (request.append store).length := by
  unfold Request.append
  split
  · simp
  · exact Nat.le_refl _

theorem reserved_step (s : InMemoryDataStore) (access : Access) (t : InMemoryDataStore) (reserved : Reserved s)
    (room : RoomForPassed s access) (h : step s access = some t) : Reserved t := by
  cases access with
  | check request =>
    simp only [step] at h
    split at h <;> cases h
    · rename_i passes
      constructor
      · have := room passes
        simp only [List.map_cons, List.sum_cons]
        omega
      · intro other member
        rcases List.mem_cons.mp member with rfl | before
        · exact passes_fits s.store other passes
        · exact reserved.fits other before
    · exact reserved
  | append request =>
    simp only [step] at h
    split at h
    · rename_i present
      cases h
      have taken := List.sum_map_erase pending present
      have grown := append_length s.store request (reserved.fits request present)
      have kept := reserved.room
      constructor
      · simp only
        omega
      · intro other member
        have longer := length_le_append s.store request
        rcases reserved.fits other (List.mem_of_mem_erase member) with small | large
        · exact .inl small
        · right
          simp only
          omega
    · cases h

theorem getValue_le (s : InMemoryDataStore) (short : s.store.length ≤ maxStoreSize) : s.getValue ≤ 100 := by
  have bound : (s.store.length : ℚ) ≤ maxStoreSize := by exact_mod_cast short
  have positive : (0 : ℚ) < maxStoreSize := by norm_num [maxStoreSize]
  rw [getValue, div_le_iff₀ positive]
  linarith

/-- The store stays within its capacity in every run whose requests pass their tests only while the
    room is not promised to others. -/
theorem capacity_kept (accesses : List Access) (final : InMemoryDataStore)
    (room : Meets step RoomForPassed create accesses) (run : exec step create accesses = some final) :
    final.store.length ≤ maxStoreSize ∧ final.getValue ≤ 100 := by
  have start : Reserved create := ⟨by decide, fun _ member => by cases member⟩
  have reserved := meets_invariant reserved_step start room run
  have short : final.store.length ≤ maxStoreSize := by have := reserved.room; omega
  exact ⟨short, getValue_le final short⟩

def anyResult : Result := ⟨10, 1, none⟩

def overlapping : List Access :=
  [.check (.store anyResult), .check (.storeAll [anyResult]), .append (.store anyResult),
    .append (.storeAll [anyResult])]

theorem capacity_kept_overlapping :
    ∃ final, exec step create overlapping = some final ∧ final.store.length = 2 ∧
      final.store.length ≤ maxStoreSize ∧ final.getValue ≤ 100 := by
  have room : Meets step RoomForPassed create overlapping := by
    apply meets_cons (fun _ => by decide) rfl
    apply meets_cons (fun _ => by decide) rfl
    apply meets_cons True.intro rfl
    exact meets_cons True.intro rfl True.intro
  exact ⟨_, rfl, rfl, capacity_kept overlapping _ room rfl⟩

def almostAll : Request := .storeAll (List.replicate 999999 anyResult)

def testedTwice (filling request : Request) : List Access :=
  [.check filling, .append filling, .check request, .check request, .append request, .append request]

theorem exec_testedTwice {filling request : Request} (first : filling.passes [] = true)
    (second : request.passes (filling.append []) = true) :
    exec step create (testedTwice filling request) =
      some ⟨request.append (request.append (filling.append [])), []⟩ := by
  simp [exec, testedTwice, step, create, first, second]

theorem almostAll_length : almostAll.results.length = 999999 := by
  simp only [almostAll, Request.results, List.length_replicate]

theorem almostAll_passes : almostAll.passes [] = true := by
  simp only [almostAll, Request.passes, javaSize, List.length_replicate]
  decide

theorem store_passes {store : List Result} (free : store.length = 999999) (result : Result) :
    (Request.store result).passes store = true := by
  simp only [Request.passes, javaSize, free]
  decide

theorem append_room {store : List Result} {request : Request} (count extra : Nat) (before : store.length = count)
    (added : request.results.length = extra) (room : count + extra < 2 ^ 31) :
    (request.append store).length = count + extra := by
  rw [Request.append, if_pos (by omega), List.length_append, before, added]

theorem capacity_exceeded :
    ∃ final, exec step create (testedTwice almostAll (.store anyResult)) = some final ∧
      final.store.length = 1000001 ∧ ¬ final.store.length ≤ maxStoreSize := by
  have filled : (almostAll.append []).length = 999999 := append_room 0 999999 rfl almostAll_length (by decide)
  have run := exec_testedTwice almostAll_passes (store_passes filled anyResult)
  have first := append_room 999999 1 filled (rfl : (Request.store anyResult).results.length = 1) (by decide)
  have second := append_room 1000000 1 first (rfl : (Request.store anyResult).results.length = 1) (by decide)
  generalize (Request.store anyResult).append ((Request.store anyResult).append (almostAll.append [])) = stored
    at run second
  exact ⟨⟨stored, []⟩, run, second, by simp [second, maxStoreSize]⟩

end InMemoryDataStore

end Pipeline
