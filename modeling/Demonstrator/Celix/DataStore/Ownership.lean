import Demonstrator.Celix.DataStore.Buffers
import Demonstrator.Transition.Runs

namespace Celix.DataStore

open Transition

variable {Result : Type} {s t : System Result}

def System.Slotted (s : System Result) (d j : Nat) (slot : Slot Result) : Prop :=
  ∃ slots, (s.stores d).store = some slots ∧ slots[j]? = some slot

def System.Held (s : System Result) (buffer : Nat) : Prop :=
  ∃ d j slot, s.Slotted d j slot ∧ slot.buffer = buffer

structure Intact (s : System Result) : Prop where
  kept : ∀ d j slot, s.Slotted d j slot → s.heap slot.buffer = some slot.passed
  separate : ∀ d j slot d' j' slot', s.Slotted d j slot → s.Slotted d' j' slot' → slot.buffer = slot'.buffer →
    d = d' ∧ j = j'

def System.Appends (s : System Result) (d : Nat) (add : Bool) : Prop :=
  add = true ∧ ∃ slots, (s.stores d).store = some slots ∧ ¬ IsStoreFull slots

/-- A caller leaves a buffer alone once a store holds it, and does not have it appended again. -/
def HandsOver (s : System Result) : Action Result → Prop
  | .overwrite buffer contents => s.callers buffer = true → s.Held buffer → s.heap buffer = some contents
  | .release buffer => s.callers buffer = true → ¬ s.Held buffer
  | .store d result add => s.callers result = true → s.Appends d add → ¬ s.Held result
  | .alloc _ _ | .storeAll _ _ | .destroy _ => True

theorem Intact.held (intact : Intact s) {buffer : Nat} (held : s.Held buffer) : s.heap buffer ≠ none := by
  obtain ⟨d, j, slot, slotted, rfl⟩ := held
  rw [intact.kept d j slot slotted]
  exact Option.some_ne_none _

theorem slotted_append {d : Nat} {slots : List (Slot Result)} {slot : Slot Result}
    (live : (s.stores d).store = some slots) {d' j : Nat} {other : Slot Result} :
    (s.append d slots slot).Slotted d' j other ↔
      s.Slotted d' j other ∨ d' = d ∧ j = slots.length ∧ other = slot := by
  by_cases same : d' = d
  · subst same
    simp only [System.Slotted, System.append, Function.update_self, Option.some.injEq, exists_eq_left', live,
      true_and]
    rcases Nat.lt_trichotomy j slots.length with low | last | high
    · simp [List.getElem?_append_left low, low.ne]
    · subst last
      simp [eq_comm]
    · have missing : slots[j]? = none := List.getElem?_eq_none (by omega)
      have beyond : (slots ++ [slot])[j]? = none := by
        apply List.getElem?_eq_none
        rw [List.length_append, List.length_singleton]
        omega
      simp [missing, beyond, high.ne']
  · simp [System.Slotted, System.append, same]

theorem Intact.append (intact : Intact s) {d : Nat} {slots : List (Slot Result)} {slot : Slot Result}
    (live : (s.stores d).store = some slots) (reads : s.heap slot.buffer = some slot.passed)
    (free : ¬ s.Held slot.buffer) : Intact (s.append d slots slot) where
  kept := by
    intro d' j other slotted
    rcases (slotted_append live).mp slotted with before | ⟨_, _, rfl⟩
    · exact intact.kept d' j other before
    · exact reads
  separate := by
    intro d₁ j₁ slot₁ d₂ j₂ slot₂ first second same
    rcases (slotted_append live).mp first with before | ⟨rfl, rfl, rfl⟩
    · rcases (slotted_append live).mp second with before' | ⟨rfl, rfl, rfl⟩
      · exact intact.separate _ _ _ _ _ _ before before' same
      · exact absurd ⟨d₁, j₁, slot₁, before, same⟩ free
    · rcases (slotted_append live).mp second with before' | ⟨rfl, rfl, rfl⟩
      · exact absurd ⟨d₂, j₂, slot₂, before', same.symm⟩ free
      · exact ⟨rfl, rfl⟩

theorem Intact.reheap (intact : Intact s) (heap : Nat → Option Result) (callers : Nat → Bool)
    (same : ∀ buffer, s.Held buffer → heap buffer = s.heap buffer) : Intact { s with heap, callers } where
  kept := by
    intro d j slot slotted
    exact (same slot.buffer ⟨d, j, slot, slotted, rfl⟩).trans (intact.kept d j slot slotted)
  separate := intact.separate

theorem Intact.allocate (intact : Intact s) {buffer : Nat} (contents : Result) (caller : Bool)
    (unused : s.heap buffer = none) : Intact (s.allocate buffer contents caller) := by
  apply intact.reheap
  intro other held
  have different : other ≠ buffer := by
    intro same
    subst same
    exact intact.held held unused
  exact Function.update_of_ne different ..

theorem intact_overwrite (intact : Intact s) (buffer : Nat) (contents : Result) :
    Intact { s with heap := Function.update s.heap buffer (some contents) } ↔
      (s.Held buffer → s.heap buffer = some contents) := by
  constructor
  · intro later ⟨d, j, slot, slotted, same⟩
    subst same
    have now := later.kept d j slot slotted
    simp only [Function.update_self] at now
    rw [now]
    exact intact.kept d j slot slotted
  · intro harmless
    apply intact.reheap
    intro other held
    by_cases same : other = buffer
    · subst same
      rw [Function.update_self]
      exact (harmless held).symm
    · exact Function.update_of_ne same ..

theorem intact_release (intact : Intact s) (buffer : Nat) :
    Intact { s with heap := Function.update s.heap buffer none } ↔ ¬ s.Held buffer := by
  constructor
  · intro later ⟨d, j, slot, slotted, same⟩
    subst same
    have now := later.kept d j slot slotted
    simp at now
  · intro free
    apply intact.reheap
    intro other held
    have different : other ≠ buffer := by
      intro same
      subst same
      exact free held
    exact Function.update_of_ne different ..

theorem intact_store (intact : Intact s) {d result : Nat} {passed : Result} (add : Bool)
    (reads : s.heap result = some passed) :
    Intact (s.store d result passed add).1 ↔ (s.Appends d add → ¬ s.Held result) := by
  unfold System.store
  split
  · rename_i gone
    constructor
    · intro _ ⟨_, slots, live, _⟩
      cases gone.symm.trans live
    · intro _
      exact intact
  · rename_i slots live
    split
    · rename_i full
      constructor
      · intro _ ⟨_, slots', live', room⟩
        cases live.symm.trans live'
        exact absurd full room
      · intro _
        exact intact
    · rename_i room
      split
      · rename_i added
        constructor
        · intro later _ ⟨d', j, slot, slotted, same⟩
          -- the old slot and the new one refer to one buffer
          have old := (@slotted_append _ s d slots ⟨result, passed⟩ live d' j slot).mpr (.inl slotted)
          have new := (@slotted_append _ s d slots ⟨result, passed⟩ live d slots.length _).mpr (.inr ⟨rfl, rfl, rfl⟩)
          obtain ⟨rfl, rfl⟩ := later.separate _ _ _ _ _ _ old new same
          obtain ⟨slots', live', found⟩ := slotted
          cases live.symm.trans live'
          simp at found
        · intro free
          exact intact.append live reads (free ⟨added, slots, live, room⟩)
      · rename_i failed
        constructor
        · intro _ ⟨added, _⟩
          exact absurd added failed
        · intro _
          exact intact

theorem storeAllLoop_intact (d : Nat) (results : List (Result × System.Pass)) (burst last : System.Burst Result)
    (intact : Intact burst.system) (h : System.storeAllLoop d results burst = some last) : Intact last.system := by
  induction results generalizing burst with
  | nil =>
    cases h
    exact intact
  | cons first rest ih =>
    obtain ⟨result, pass⟩ := first
    simp only [System.storeAllLoop] at h
    split at h
    · cases h
      exact intact
    · rename_i slots live
      split at h
      · cases h
        exact intact
      · split at h
        · cases h
          exact intact
        · rename_i copy _
          split at h
          · rename_i unused
            have copied := intact.allocate result false unused
            split at h
            · apply ih _ _ h
              apply copied.append live
              · exact Function.update_self ..
              · intro held
                exact intact.held held unused
            · exact ih _ copied h
          · cases h

theorem storeAll_intact {d : Nat} {results : List (Result × System.Pass)} {status : Status} (intact : Intact s)
    (h : s.storeAll d results = some (t, status)) : Intact t := by
  unfold System.storeAll at h
  split at h
  · cases h
    exact intact
  · obtain ⟨last, stored, same⟩ := Option.map_eq_some_iff.mp h
    cases same
    exact storeAllLoop_intact d results ⟨s, 0, .success⟩ last intact stored

theorem destroy_intact {d : Nat} {slots : List (Slot Result)} (intact : Intact s)
    (live : (s.stores d).store = some slots) : Intact (s.destroy d slots) := by
  have others : ∀ d' j slot, (s.destroy d slots).Slotted d' j slot → d' ≠ d ∧ s.Slotted d' j slot := by
    intro d' j slot ⟨slots', live', found⟩
    have different : d' ≠ d := by
      intro same
      subst same
      simp [System.destroy] at live'
    refine ⟨different, slots', ?_, found⟩
    simpa [System.destroy, different] using live'
  constructor
  · intro d' j slot slotted
    obtain ⟨different, before⟩ := others d' j slot slotted
    have spared : slot.buffer ∉ slots.map Slot.buffer := by
      intro member
      obtain ⟨freed, listed, same⟩ := List.mem_map.mp member
      obtain ⟨k, found⟩ := List.mem_iff_getElem?.mp listed
      exact different (intact.separate _ _ _ _ _ _ before ⟨slots, live, found⟩ same.symm).1
    simp only [System.destroy, spared, if_false]
    exact intact.kept d' j slot before
  · intro d₁ j₁ slot₁ d₂ j₂ slot₂ first second
    exact intact.separate _ _ _ _ _ _ (others _ _ _ first).2 (others _ _ _ second).2

theorem intact_step (s : System Result) (action : Action Result) (t : System Result) (intact : Intact s)
    (h : step s action = some t) : Intact t ↔ HandsOver s action := by
  cases action with
  | alloc buffer contents =>
    simp only [step] at h
    split at h
    · rename_i unused
      cases h
      exact ⟨fun _ => True.intro, fun _ => intact.allocate contents true unused⟩
    · cases h
  | overwrite buffer contents =>
    simp only [step] at h
    split at h
    · rename_i own
      cases h
      rw [intact_overwrite intact]
      exact ⟨fun harmless _ => harmless, fun harmless => harmless own.1⟩
    · cases h
  | release buffer =>
    simp only [step] at h
    split at h
    · rename_i own
      cases h
      rw [intact_release intact]
      exact ⟨fun free _ => free, fun free => free own.1⟩
    · cases h
  | store d result add =>
    simp only [step] at h
    split at h
    · rename_i own
      obtain ⟨passed, reads, rfl⟩ := Option.map_eq_some_iff.mp h
      rw [intact_store intact add reads]
      exact ⟨fun free _ => free, fun free => free own⟩
    · cases h
  | storeAll d results =>
    obtain ⟨⟨after, status⟩, stored, rfl⟩ := Option.map_eq_some_iff.mp h
    exact ⟨fun _ => True.intro, fun _ => storeAll_intact intact stored⟩
  | destroy d =>
    obtain ⟨slots, live, rfl⟩ := Option.map_eq_some_iff.mp h
    exact ⟨fun _ => True.intro, fun _ => destroy_intact intact live⟩

theorem handsOver_disabled (s : System Result) (action : Action Result) (intact : Intact s)
    (h : step s action = none) : HandsOver s action := by
  cases action with
  | alloc _ _ | storeAll _ _ | destroy _ => exact True.intro
  | overwrite buffer contents =>
    intro own held
    have used := intact.held held
    simp [step, own, used] at h
  | release buffer =>
    intro own held
    have used := intact.held held
    simp [step, own, used] at h
  | store d result add =>
    intro own _ held
    have used := intact.held held
    simp [step, own, used] at h

/-- The stored results stay intact just if the callers hand their buffers over for good, each to one
    slot. -/
theorem stored_results_intact_iff (actions : List (Action Result)) :
    Always step Intact (System.initial : System Result) actions ↔
      Meets step HandsOver (System.initial : System Result) actions := by
  apply always_iff_meets intact_step handsOver_disabled
  have empty : ∀ d j slot, ¬ (System.initial : System Result).Slotted d j slot := by
    intro d j slot ⟨slots, live, found⟩
    cases live
    cases found
  exact ⟨fun d j slot slotted => absurd slotted (empty d j slot),
    fun d j slot _ _ _ slotted => absurd slotted (empty d j slot)⟩

/-- A burst of one sample with one registered store leaves a slot that refers to released memory, and a
    single sample with two of them leaves two slots with one buffer. -/
theorem sent_results_lost :
    (∃ final, exec step (System.initial : System Nat) (receiveBursts [0] 7 42) = some final ∧
      (final.stores 0).store = some [⟨7, 42⟩] ∧ final.heap 7 = none ∧
      ¬ Always step Intact (System.initial : System Nat) (receiveBursts [0] 7 42)) ∧
    (∃ final, exec step (System.initial : System Nat) (receiveSamples [0, 1] 7 42) = some final ∧
      (final.stores 0).store = some [⟨7, 42⟩] ∧ (final.stores 1).store = some [⟨7, 42⟩] ∧
      ¬ Always step Intact (System.initial : System Nat) (receiveSamples [0, 1] 7 42)) := by
  constructor
  · refine ⟨_, rfl, rfl, rfl, fun always => ?_⟩
    have reached := (((always.2 _ rfl).2 _ rfl).2 _ rfl : Intact _)
    have read := reached.kept 0 0 ⟨7, 42⟩ ⟨[⟨7, 42⟩], rfl, rfl⟩
    cases read
  · refine ⟨_, rfl, rfl, rfl, fun always => ?_⟩
    have reached := (((always.2 _ rfl).2 _ rfl).2 _ rfl : Intact _)
    have shared := reached.separate 0 0 ⟨7, 42⟩ 1 0 ⟨7, 42⟩ ⟨[⟨7, 42⟩], rfl, rfl⟩ ⟨[⟨7, 42⟩], rfl, rfl⟩ rfl
    cases shared.1

end Celix.DataStore
