import Demonstrator.Celix.DataStore.Buffers
import Demonstrator.Celix.SampleQueue.Batches
import Mathlib.Data.List.Nodup

namespace Celix.DataStore

open Fifo

variable {Result : Type}

theorem isStoreFull_iff (slots : List (Slot Result)) : IsStoreFull slots ↔ ¬ slots.length < MAX_STORE_SIZE := by
  simp [IsStoreFull, MAX_STORE_SIZE]

/-- A result of a batch: its value, the buffer that `calloc` returns for its copy, and the pointer that a
    call of `dataStore_store` would pass instead. -/
structure Delivery (Result : Type) where
  result : Result
  copy : Nat
  pointer : Nat

namespace System

def value (s : System Result) (d j : Nat) : Option Result :=
  ((s.stores d).store.bind fun slots => slots[j]?).bind fun slot => s.heap slot.buffer

/-- The `j`-th pointer of a store refers to released memory, which `calloc` may hand out again. -/
def Dangling (s : System Result) (d j : Nat) : Prop :=
  ∃ slots slot, (s.stores d).store = some slots ∧ slots[j]? = some slot ∧ s.heap slot.buffer = none

def storeEach (d : Nat) : List (Delivery Result) → System Result → System Result × List Status
  | [], s => (s, [])
  | delivery :: rest, s =>
    let (next, status) := s.store d delivery.pointer delivery.result true
    let later := storeEach d rest next
    (later.1, status :: later.2)

def passes (deliveries : List (Delivery Result)) : List (Result × Pass) :=
  deliveries.map fun delivery => (delivery.result, ⟨some delivery.copy, true⟩)

/-- The buffers that `calloc` returns are free, and no two of them are the same. -/
def Fresh (s : System Result) (deliveries : List (Delivery Result)) : Prop :=
  (deliveries.map Delivery.copy).Nodup ∧ ∀ delivery ∈ deliveries, s.heap delivery.copy = none

/-- The pointers refer to the results. -/
def Passed (s : System Result) (deliveries : List (Delivery Result)) : Prop :=
  ∀ delivery ∈ deliveries, s.heap delivery.pointer = some delivery.result

/-- The store has had the results added behind its slots, and nothing else that could be read has changed. -/
structure Grown (s : System Result) (d : Nat) (slots : List (Slot Result)) (t : System Result) (added : List Result) :
    Prop where
  store : ∃ more, t.stores d = ⟨some (slots ++ more), (s.stores d).currentStoreSize + added.length⟩ ∧
    (more.map fun slot => t.heap slot.buffer) = added.map some
  kept : ∀ buffer, s.heap buffer ≠ none → t.heap buffer = s.heap buffer

section Growth

variable {s t : System Result} {d : Nat} {slots : List (Slot Result)} {added : List Result}

theorem Grown.refl (live : (s.stores d).store = some slots) : Grown s d slots s [] where
  store := by
    refine ⟨[], ?_, rfl⟩
    rw [List.append_nil, ← live, List.length_nil, Int.natCast_zero, Int.add_zero]
  kept _ _ := rfl

theorem Grown.isStoreFull_iff (grown : Grown s d slots t added) :
    ∃ current, (t.stores d).store = some current ∧
      (IsStoreFull current ↔ ¬ (slots.map Slot.passed ++ added).length < MAX_STORE_SIZE) := by
  obtain ⟨more, store, reads⟩ := grown.store
  have lengths := congrArg List.length reads
  rw [List.length_map, List.length_map] at lengths
  refine ⟨slots ++ more, congrArg Store.store store, ?_⟩
  rw [DataStore.isStoreFull_iff, List.length_append, List.length_append, List.length_map, lengths]

theorem Grown.append (grown : Grown s d slots t added) {current : List (Slot Result)}
    (live : (t.stores d).store = some current) (slot : Slot Result) {result : Result}
    (reads : t.heap slot.buffer = some result) :
    Grown s d slots (t.append d current slot) (added ++ [result]) where
  store := by
    obtain ⟨more, store, before⟩ := grown.store
    rw [store] at live
    cases live
    refine ⟨more ++ [slot], ?_, ?_⟩
    · simp only [System.append, Function.update_self, store, List.append_assoc, List.length_append,
        List.length_singleton, Int.natCast_add, Int.natCast_one, Int.add_assoc]
    · simp [System.append, before, reads]
  kept := grown.kept

theorem Grown.allocate (grown : Grown s d slots t added) {copy : Nat} (free : t.heap copy = none) (result : Result) :
    Grown s d slots (t.allocate copy result false) added where
  store := by
    obtain ⟨more, store, reads⟩ := grown.store
    refine ⟨more, store, ?_⟩
    rw [← reads]
    apply List.map_congr_left
    intro slot member
    have present : t.heap slot.buffer ∈ added.map some := reads ▸ List.mem_map_of_mem member
    obtain ⟨value, _, read⟩ := List.mem_map.mp present
    have different : slot.buffer ≠ copy := by
      intro same
      rw [same, free] at read
      cases read
    exact Function.update_of_ne different ..
  kept := by
    intro buffer used
    have different : buffer ≠ copy := by
      intro same
      rw [← grown.kept buffer used, same, free] at used
      exact used rfl
    exact (Function.update_of_ne different ..).trans (grown.kept buffer used)

theorem storeEach_fills (d : Nat) (deliveries : List (Delivery Result)) (t : System Result) (added : List Result)
    (grown : Grown s d slots t added) (passed : t.Passed deliveries) :
    let more := fitting MAX_STORE_SIZE (slots.map Slot.passed ++ added) (deliveries.map Delivery.result)
    Grown s d slots (storeEach d deliveries t).1 (added ++ more) ∧
      (storeEach d deliveries t).2.length = deliveries.length ∧
      (storeEach d deliveries t).2.count .success = more.length := by
  induction deliveries generalizing t added with
  | nil => simpa [storeEach] using grown
  | cons delivery rest ih =>
    intro more
    obtain ⟨current, live, full⟩ := grown.isStoreFull_iff
    have passed' : t.Passed rest := fun other member => passed other (List.mem_cons_of_mem _ member)
    by_cases room : (slots.map Slot.passed ++ added).length < MAX_STORE_SIZE
    · have notFull : ¬ IsStoreFull current := fun crowded => full.mp crowded room
      have first : t.store d delivery.pointer delivery.result true =
          (t.append d current ⟨delivery.pointer, delivery.result⟩, .success) := by
        simp [System.store, live, notFull]
      have next := grown.append live ⟨delivery.pointer, delivery.result⟩
        (passed delivery List.mem_cons_self)
      obtain ⟨later, statuses, succeeded⟩ := ih _ _ next passed'
      have taken : more = delivery.result ::
          fitting MAX_STORE_SIZE (slots.map Slot.passed ++ added ++ [delivery.result]) (rest.map Delivery.result) :=
        fitting_cons_of_room _ _ _ _ room
      rw [← List.append_assoc] at later succeeded
      simp only [storeEach, first, taken]
      refine ⟨?_, ?_, ?_⟩
      · rw [List.append_cons]
        exact later
      · rw [List.length_cons, statuses, List.length_cons]
      · rw [List.count_cons_self, succeeded, List.length_cons]
    · have first : t.store d delivery.pointer delivery.result true = (t, .enomem) := by
        simp [System.store, live, full.mpr room]
      obtain ⟨later, statuses, succeeded⟩ := ih t added grown passed'
      have none : more = [] := fitting_of_full _ _ _ room
      rw [fitting_of_full _ _ _ room] at later succeeded
      simp only [storeEach, first, none]
      refine ⟨later, ?_, ?_⟩
      · rw [List.length_cons, statuses, List.length_cons]
      · rw [List.count_cons_of_ne (by decide), succeeded]

theorem Fresh.next {delivery : Delivery Result} {rest : List (Delivery Result)}
    (fresh : s.Fresh (delivery :: rest)) (d : Nat) (slots : List (Slot Result)) :
    ((s.allocate delivery.copy delivery.result false).append d slots
      ⟨delivery.copy, delivery.result⟩).Fresh rest := by
  obtain ⟨distinct, unused⟩ := fresh
  rw [List.map_cons, List.nodup_cons] at distinct
  refine ⟨distinct.2, ?_⟩
  intro other member
  have different : other.copy ≠ delivery.copy := by
    intro same
    exact distinct.1 (same ▸ List.mem_map_of_mem member)
  simp only [System.append, System.allocate, Function.update_of_ne different]
  exact unused other (List.mem_cons_of_mem _ member)

theorem storeAllLoop_fills (d : Nat) (deliveries : List (Delivery Result)) (burst : Burst Result) (added : List Result)
    (grown : Grown s d slots burst.system added) (fresh : burst.system.Fresh deliveries) :
    let more := fitting MAX_STORE_SIZE (slots.map Slot.passed ++ added) (deliveries.map Delivery.result)
    ∃ system, storeAllLoop d (passes deliveries) burst =
        some ⟨system, burst.resultsAdded + more.length, burst.status⟩ ∧
      Grown s d slots system (added ++ more) := by
  induction deliveries generalizing burst added with
  | nil => exact ⟨burst.system, by simp [passes, storeAllLoop], by simpa using grown⟩
  | cons delivery rest ih =>
    intro more
    obtain ⟨current, live, full⟩ := grown.isStoreFull_iff
    by_cases room : (slots.map Slot.passed ++ added).length < MAX_STORE_SIZE
    · have notFull : ¬ IsStoreFull current := fun crowded => full.mp crowded room
      have free := fresh.2 delivery List.mem_cons_self
      have copied := grown.allocate free delivery.result
      have next := copied.append live ⟨delivery.copy, delivery.result⟩ (Function.update_self ..)
      obtain ⟨system, later, filled⟩ := ih
        { burst with
          system := (burst.system.allocate delivery.copy delivery.result false).append d current
            ⟨delivery.copy, delivery.result⟩
          resultsAdded := burst.resultsAdded + 1 } _ next (fresh.next d current)
      have taken : more = delivery.result ::
          fitting MAX_STORE_SIZE (slots.map Slot.passed ++ added ++ [delivery.result]) (rest.map Delivery.result) :=
        fitting_cons_of_room _ _ _ _ room
      rw [← List.append_assoc] at later filled
      refine ⟨system, ?_, ?_⟩
      · simp only [passes, List.map_cons, storeAllLoop, live, notFull, free, if_true, if_false, taken,
          List.length_cons]
        rw [← Nat.add_assoc, Nat.add_right_comm]
        exact later
      · rw [taken, List.append_cons]
        exact filled
    · have none : more = [] := fitting_of_full _ _ _ room
      refine ⟨burst.system, ?_, ?_⟩
      · simp [passes, storeAllLoop, live, full.mpr room, none]
      · rw [none, List.append_nil]
        exact grown

theorem Grown.value_added (grown : Grown s d slots t added) {j : Nat} (behind : slots.length ≤ j) :
    t.value d j = added[j - slots.length]? := by
  obtain ⟨more, store, reads⟩ := grown.store
  have read := congrArg (fun values : List (Option Result) => values[j - slots.length]?) reads
  simp only [List.getElem?_map] at read
  rw [value, store]
  simp only [Option.bind_some]
  rw [List.getElem?_append_right behind]
  calc more[j - slots.length]?.bind (fun slot => t.heap slot.buffer)
      = (more[j - slots.length]?.map fun slot => t.heap slot.buffer).join := by cases more[j - slots.length]? <;> rfl
    _ = (added[j - slots.length]?.map some).join := by rw [read]
    _ = added[j - slots.length]? := by cases added[j - slots.length]? <;> rfl

theorem Grown.value_kept (grown : Grown s d slots t added) (live : (s.stores d).store = some slots) {j : Nat}
    (before : j < slots.length) (readable : ¬ s.Dangling d j) : t.value d j = s.value d j := by
  obtain ⟨more, store, _⟩ := grown.store
  have found : slots[j]? = some slots[j] := List.getElem?_eq_getElem before
  have used : s.heap slots[j].buffer ≠ none := fun released => readable ⟨slots, slots[j], live, found, released⟩
  rw [value, value, store, live]
  simp only [Option.bind_some]
  rw [List.getElem?_append_left before, found]
  exact grown.kept _ used

theorem Grown.length (grown : Grown s d slots t added) :
    (t.stores d).store.map List.length = some (slots.length + added.length) := by
  obtain ⟨more, store, reads⟩ := grown.store
  have lengths := congrArg List.length reads
  rw [List.length_map, List.length_map] at lengths
  rw [store, Option.map_some, List.length_append, lengths]

theorem Grown.size (grown : Grown s d slots t added) :
    (t.stores d).currentStoreSize = (s.stores d).currentStoreSize + added.length := by
  obtain ⟨more, store, _⟩ := grown.store
  rw [store]

end Growth

/-- The stores have as many slots and the same size, and the same results are read from them, but for the slots that
    referred to released memory before. -/
def SameStored (s : System Result) (d : Nat) (one other : System Result) : Prop :=
  (one.stores d).store.map List.length = (other.stores d).store.map List.length ∧
    (one.stores d).currentStoreSize = (other.stores d).currentStoreSize ∧
    ∀ j, ¬ s.Dangling d j → one.value d j = other.value d j

theorem Grown.same {s one other : System Result} {d : Nat} {slots : List (Slot Result)} {added : List Result}
    (left : Grown s d slots one added) (right : Grown s d slots other added)
    (live : (s.stores d).store = some slots) : SameStored s d one other := by
  refine ⟨left.length.trans right.length.symm, left.size.trans right.size.symm, fun j readable => ?_⟩
  by_cases before : j < slots.length
  · exact (left.value_kept live before readable).trans (right.value_kept live before readable).symm
  · have behind : slots.length ≤ j := Nat.le_of_not_lt before
    exact (left.value_added behind).trans (right.value_added behind).symm

theorem storeAll_iterated (s : System Result) (d : Nat) (slots : List (Slot Result))
    (live : (s.stores d).store = some slots) (deliveries : List (Delivery Result)) (fresh : s.Fresh deliveries)
    (passed : s.Passed deliveries) :
    ∃ final status, s.storeAll d (passes deliveries) = some (final, status) ∧
      SameStored s d final (storeEach d deliveries s).1 ∧
      (status = .success ↔ ∀ status ∈ (storeEach d deliveries s).2, status = .success) := by
  obtain ⟨single, statuses, succeeded⟩ := storeEach_fills d deliveries s [] (.refl live) passed
  obtain ⟨final, loop, batch⟩ := storeAllLoop_fills d deliveries ⟨s, 0, .success⟩ [] (.refl live) fresh
  rw [List.append_nil] at single succeeded loop batch
  have all : (∀ status ∈ (storeEach d deliveries s).2, status = .success) ↔
      (fitting MAX_STORE_SIZE (slots.map Slot.passed) (deliveries.map Delivery.result)).length =
        deliveries.length := by
    rw [← succeeded, ← statuses, List.count_eq_length]
    exact forall₂_congr fun _ _ => eq_comm
  refine ⟨final, if (fitting MAX_STORE_SIZE (slots.map Slot.passed) (deliveries.map Delivery.result)).length =
    deliveries.length then .success else .bundleException, ?_, batch.same single live, ?_⟩
  · have length : (passes deliveries).length = deliveries.length := List.length_map _
    simp only [storeAll, live, loop, Option.map_some, Nat.zero_add, length, and_true, ne_eq, ite_not]
  · rw [all]
    by_cases complete : (fitting MAX_STORE_SIZE (slots.map Slot.passed)
      (deliveries.map Delivery.result)).length = deliveries.length
    · simp [complete]
    · simp [complete]

end System

def callersBuffers : System Nat := (System.initial.allocate 1 40 true).allocate 2 41 true

def copied : List (Delivery Nat) := [⟨40, 3, 1⟩, ⟨41, 4, 2⟩]

end Celix.DataStore
