import Demonstrator.Celix.DataStore.Buffers
import Demonstrator.Transition.Runs
import Mathlib.Tactic.Linarith
import Mathlib.Tactic.Positivity
import Mathlib.Data.Rat.Cast.Order

namespace Celix.DataStore

open Transition

variable {Result : Type} {s t : System Result} {a b c : Store Result} {slots : List (Slot Result)} {d : Nat}

/-- `dataStore_getUtilizationStatsValue`, in exact arithmetic. -/
def Store.getUtilizationStatsValue (store : Store Result) : ℚ := store.currentStoreSize / MAX_STORE_SIZE * 100

/-- What a store can become: results are appended and counted while there is room, and the list is
    removed for good with the counter as it stands. -/
def Store.Becomes (a b : Store Result) : Prop :=
  b = a ∨ ∃ slots more, a.store = some slots ∧
    b.currentStoreSize = a.currentStoreSize + (more.length : Nat) ∧
    (slots.length ≤ MAX_STORE_SIZE → (slots ++ more).length ≤ MAX_STORE_SIZE) ∧
    (b.store = none ∨ b.store = some (slots ++ more))

theorem Store.Becomes.trans (first : a.Becomes b) (second : b.Becomes c) : a.Becomes c := by
  rcases first with rfl | ⟨slots, more, live, size, fits, gone | kept⟩
  · exact second
  · rcases second with rfl | ⟨slots', more', live', _⟩
    · exact .inr ⟨slots, more, live, size, fits, .inl gone⟩
    · cases gone.symm.trans live'
  · rcases second with rfl | ⟨slots', more', live', size', fits', list⟩
    · exact .inr ⟨slots, more, live, size, fits, .inr kept⟩
    · cases kept.symm.trans live'
      refine .inr ⟨slots, more ++ more', live, ?_, ?_, ?_⟩
      · rw [size', size, List.length_append]
        omega
      · rw [← List.append_assoc]
        exact fun room => fits' (fits room)
      · rw [← List.append_assoc]
        exact list

theorem becomes_append (live : (s.stores d).store = some slots) (room : ¬ IsStoreFull slots) (slot : Slot Result)
    (d' : Nat) : (s.stores d').Becomes ((s.append d slots slot).stores d') := by
  by_cases here : d' = d
  · subst here
    have below : slots.length < MAX_STORE_SIZE := (not_not.mp room).resolve_left (by decide)
    refine .inr ⟨slots, [slot], live, ?_, ?_, .inr ?_⟩
    · simp [System.append]
    · rw [List.length_append, List.length_singleton]
      exact fun _ => below
    · simp [System.append]
  · exact .inl (Function.update_of_ne here _ _)

theorem becomes_store (s : System Result) (d result : Nat) (passed : Result) (add : Bool) (d' : Nat) :
    (s.stores d').Becomes ((s.store d result passed add).1.stores d') := by
  unfold System.store
  split
  · exact .inl rfl
  · rename_i slots live
    split
    · exact .inl rfl
    · rename_i room
      split
      · exact becomes_append live room _ d'
      · exact .inl rfl

theorem becomes_storeAllLoop (results : List (Result × System.Pass)) (burst last : System.Burst Result)
    (h : System.storeAllLoop d results burst = some last) (d' : Nat) :
    (burst.system.stores d').Becomes (last.system.stores d') := by
  induction results generalizing burst with
  | nil =>
    cases h
    exact .inl rfl
  | cons first rest ih =>
    obtain ⟨result, pass⟩ := first
    simp only [System.storeAllLoop] at h
    split at h
    · cases h
      exact .inl rfl
    · rename_i slots live
      split at h
      · cases h
        exact .inl rfl
      · rename_i room
        split at h
        · cases h
          exact .inl rfl
        · rename_i copy _
          split at h
          · split at h
            · have added := @becomes_append _ (burst.system.allocate copy result false) slots d live room
                ⟨copy, result⟩ d'
              exact Store.Becomes.trans added (ih _ h)
            · -- the copy is lost, the stores are as they were
              exact ih { burst with system := burst.system.allocate copy result false } h
          · cases h

theorem becomes_destroy (live : (s.stores d).store = some slots) (d' : Nat) :
    (s.stores d').Becomes ((s.destroy d slots).stores d') := by
  by_cases here : d' = d
  · subst here
    refine .inr ⟨slots, [], live, ?_, ?_, .inl ?_⟩
    · simp [System.destroy]
    · rw [List.append_nil]
      exact id
    · simp [System.destroy]
  · exact .inl (Function.update_of_ne here _ _)

theorem becomes_step {action : Action Result} (h : step s action = some t) (d : Nat) :
    (s.stores d).Becomes (t.stores d) := by
  cases action with
  | alloc buffer contents =>
    simp only [step] at h
    split at h
    · cases h
      exact .inl rfl
    · cases h
  | overwrite buffer contents =>
    simp only [step] at h
    split at h
    · cases h
      exact .inl rfl
    · cases h
  | release buffer =>
    simp only [step] at h
    split at h
    · cases h
      exact .inl rfl
    · cases h
  | store target result add =>
    simp only [step] at h
    split at h
    · obtain ⟨passed, _, rfl⟩ := Option.map_eq_some_iff.mp h
      exact becomes_store s target result passed add d
    · cases h
  | storeAll target results =>
    obtain ⟨⟨_, status⟩, stored, rfl⟩ := Option.map_eq_some_iff.mp h
    unfold System.storeAll at stored
    split at stored
    · cases stored
      exact .inl rfl
    · obtain ⟨last, looped, same⟩ := Option.map_eq_some_iff.mp stored
      cases same
      exact becomes_storeAllLoop results _ last looped d
  | destroy target =>
    obtain ⟨slots, live, rfl⟩ := Option.map_eq_some_iff.mp h
    exact becomes_destroy live d

theorem becomes_exec {actions : List (Action Result)} (run : exec step s actions = some t) (d : Nat) :
    (s.stores d).Becomes (t.stores d) :=
  exec_invariant (fun _ _ _ so_far taken => Store.Becomes.trans so_far (becomes_step taken d)) (.inl rfl) run

theorem counted_of_becomes (becomes : Store.create.Becomes a) :
    0 ≤ a.currentStoreSize ∧ a.currentStoreSize ≤ MAX_STORE_SIZE ∧
      ∀ slots, a.store = some slots → a.currentStoreSize = slots.length := by
  rcases becomes with rfl | ⟨slots, more, live, size, fits, list⟩
  · refine ⟨le_refl 0, Int.natCast_nonneg MAX_STORE_SIZE, fun slots live => ?_⟩
    cases live
    rfl
  · cases live
    have fit := fits (Nat.zero_le _)
    rw [List.nil_append] at fit list
    have count : a.currentStoreSize = more.length := by
      rw [size]
      exact Int.zero_add _
    refine ⟨by omega, by omega, fun slots now => ?_⟩
    rcases list with gone | kept
    · cases gone.symm.trans now
    · cases kept.symm.trans now
      exact count

theorem utilization_range (low : 0 ≤ a.currentStoreSize) (high : a.currentStoreSize ≤ MAX_STORE_SIZE) :
    0 ≤ a.getUtilizationStatsValue ∧ a.getUtilizationStatsValue ≤ 100 := by
  have low' : (0 : ℚ) ≤ a.currentStoreSize := by exact_mod_cast low
  have high' : (a.currentStoreSize : ℚ) ≤ 100000 := by exact_mod_cast high
  have value : a.getUtilizationStatsValue = a.currentStoreSize / 100000 * 100 := by
    simp [Store.getUtilizationStatsValue, MAX_STORE_SIZE]
  rw [value]
  constructor
  · positivity
  · linarith

theorem store_bookkeeping (before after : List (Action Result))
    (reached : exec step System.initial before = some s) (continued : exec step s after = some t) (d : Nat) :
    (∀ slots, (s.stores d).store = some slots → (s.stores d).currentStoreSize = slots.length) ∧
      0 ≤ (s.stores d).currentStoreSize ∧ (s.stores d).currentStoreSize ≤ MAX_STORE_SIZE ∧
      0 ≤ (s.stores d).getUtilizationStatsValue ∧ (s.stores d).getUtilizationStatsValue ≤ 100 ∧
      ((s.stores d).store = none → t.stores d = s.stores d) ∧
      ∀ slots later, (s.stores d).store = some slots → (t.stores d).store = some later → slots <+: later := by
  obtain ⟨low, high, size⟩ := counted_of_becomes (becomes_exec reached d)
  obtain ⟨least, most⟩ := utilization_range low high
  refine ⟨size, low, high, least, most, ?_, ?_⟩
  · intro gone
    rcases becomes_exec continued d with same | ⟨slots, _, live, _⟩
    · exact same
    · cases gone.symm.trans live
  · intro slots later live live'
    rcases becomes_exec continued d with same | ⟨held, more, was, _, _, gone | kept⟩
    · rw [same, live] at live'
      cases live'
      exact List.prefix_refl _
    · cases gone.symm.trans live'
    · cases live.symm.trans was
      cases kept.symm.trans live'
      exact List.prefix_append _ _

theorem removed_store_keeps_count :
    ∃ s t : System Nat,
      exec step System.initial [.alloc 1 40, .store 0 1 true, .storeAll 0 [(41, ⟨some 2, false⟩), (42, ⟨some 3, true⟩)]] =
        some s ∧
      exec step s [.destroy 0, .alloc 4 43, .store 0 4 true] = some t ∧ (s.stores 0).currentStoreSize = 2 ∧
      (∀ slots later, (s.stores 0).store = some slots → (t.stores 0).store = some later → slots <+: later) ∧
      (t.stores 0).store = none ∧ (t.stores 0).currentStoreSize = 2 := by
  refine ⟨_, _, rfl, rfl, rfl, ?_, rfl, rfl⟩
  exact (store_bookkeeping [.alloc 1 40, .store 0 1 true, .storeAll 0 [(41, ⟨some 2, false⟩), (42, ⟨some 3, true⟩)]]
    [.destroy 0, .alloc 4 43, .store 0 4 true] rfl rfl 0).2.2.2.2.2.2

end Celix.DataStore
