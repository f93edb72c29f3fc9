import Demonstrator.Java.Pipeline.Capacity

namespace Pipeline

open Arithmetic

def Request.perform (request : Request) (store : List Result) : List Result :=
  if request.passes store then request.append store else store

def storeEach (store results : List Result) : List Result :=
  results.foldl (fun store result => (Request.store result).perform store) store

def BatchIterates (store results : List Result) : Prop :=
  (store.length + results.length ≤ maxStoreSize →
    (Request.storeAll results).perform store = storeEach store results) ∧
  (maxStoreSize < store.length + results.length → (Request.storeAll results).perform store = store)

theorem perform_store (store : List Result) (result : Result) (room : store.length < maxStoreSize) :
    (Request.store result).perform store = store ++ [result] := by
  have limit : MAX_STORE_SIZE.toInt = maxStoreSize := rfl
  have size := InMemoryDataStore.javaSize_toInt store
  have bound : maxStoreSize < 2 ^ 31 := by decide
  have passes : (Request.store result).passes store = true := by
    simp only [Request.passes, decide_eq_true_eq, Int32.lt_iff_toInt_lt]
    omega
  have fits : store.length + (Request.store result).results.length < 2 ^ 31 := by
    rw [Request.results, List.length_singleton]
    omega
  rw [Request.perform, if_pos passes, Request.append, if_pos fits]
  rfl

theorem storeEach_fits (store results : List Result) (fits : store.length + results.length ≤ maxStoreSize) :
    storeEach store results = store ++ results := by
  induction results generalizing store with
  | nil => simp [storeEach]
  | cons result later ih =>
    rw [List.length_cons] at fits
    have first := perform_store store result (by omega)
    have rest := ih (store ++ [result]) (by rw [List.length_append, List.length_singleton]; omega)
    rw [storeEach, List.foldl_cons, first]
    simpa [storeEach] using rest

/-- The batch is added just if it leaves a place free. A sum that is not an int passes the test as a
    negative number, but no array can be made of that length. -/
theorem perform_storeAll (store results : List Result) (sized : store.length ≤ maxStoreSize) :
    (Request.storeAll results).perform store =
      if store.length + results.length < maxStoreSize then store ++ results else store := by
  have limit : MAX_STORE_SIZE.toInt = maxStoreSize := rfl
  have bound : maxStoreSize < 2 ^ 31 := by decide
  have here := InMemoryDataStore.javaSize_toInt store
  have new := InMemoryDataStore.javaSize_toInt results
  unfold Request.perform
  by_cases overflow : 2 ^ 31 ≤ store.length + results.length
  · have kept : (Request.storeAll results).append store = store := if_neg (not_lt.mpr overflow)
    rw [kept, ite_self, if_neg (by omega)]
  · have added : (Request.storeAll results).append store = store ++ results := if_pos (not_le.mp overflow)
    have sum : (javaSize store + javaSize results).toInt = store.length + results.length := by
      rw [toInt_add_of_range (by omega) (by omega)]
      omega
    have test : (Request.storeAll results).passes store = true ↔
        store.length + results.length < maxStoreSize := by
      rw [Request.passes, decide_eq_true_eq, Int32.lt_iff_toInt_lt, sum, limit]
      exact_mod_cast Iff.rfl
    rw [added]
    simp only [test]

/-- A batch is stored as its results would be one by one, unless it fills the store exactly. -/
theorem batch_iterates_iff (store results : List Result) (sized : store.length ≤ maxStoreSize) :
    BatchIterates store results ↔ (store.length + results.length = maxStoreSize → results = []) := by
  have batch := perform_storeAll store results sized
  have single := storeEach_fits store results
  unfold BatchIterates
  rw [batch]
  constructor
  · intro iterates filled
    have same := iterates.1 (by omega)
    rw [single (by omega), if_neg (by omega)] at same
    exact List.append_right_eq_self.mp same.symm
  · intro empty
    constructor
    · intro fits
      rw [single fits]
      by_cases free : store.length + results.length < maxStoreSize
      · rw [if_pos free]
      · rw [if_neg free, empty (by omega), List.append_nil]
    · intro beyond
      rw [if_neg (by omega)]

theorem batch_iterates_pair : BatchIterates [] [InMemoryDataStore.anyResult, InMemoryDataStore.anyResult] :=
  (batch_iterates_iff [] [InMemoryDataStore.anyResult, InMemoryDataStore.anyResult] (by decide)).mpr (by decide)

def nearlyFull : List Result := List.replicate 999999 InMemoryDataStore.anyResult

theorem batch_dropped :
    nearlyFull.length + [InMemoryDataStore.anyResult].length ≤ maxStoreSize ∧
      (Request.storeAll [InMemoryDataStore.anyResult]).perform nearlyFull = nearlyFull ∧
      storeEach nearlyFull [InMemoryDataStore.anyResult] = nearlyFull ++ [InMemoryDataStore.anyResult] ∧
      ¬ BatchIterates nearlyFull [InMemoryDataStore.anyResult] := by
  have length : nearlyFull.length = 999999 := List.length_replicate
  have limit : maxStoreSize = 1000000 := rfl
  have one : [InMemoryDataStore.anyResult].length = 1 := rfl
  have batch := perform_storeAll nearlyFull [InMemoryDataStore.anyResult] (by omega)
  rw [if_neg (by omega)] at batch
  have single := storeEach_fits nearlyFull [InMemoryDataStore.anyResult] (by omega)
  have different : ¬ BatchIterates nearlyFull [InMemoryDataStore.anyResult] := by
    intro iterates
    have same := iterates.1 (by omega)
    rw [batch, single] at same
    exact List.cons_ne_nil _ _ (List.append_right_eq_self.mp same.symm)
  exact ⟨by omega, batch, single, different⟩

end Pipeline
