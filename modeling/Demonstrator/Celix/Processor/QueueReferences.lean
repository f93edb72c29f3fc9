import Demonstrator.Celix.Processor.Services
import Demonstrator.Transition.Updates

namespace Celix.Processor

open Locking Transition

variable {QueueService DataStoreService : Type} {s t : System QueueService DataStoreService} {rates : Rates}

/-- The thread data that a sample queue has: between `pthread_create` and `hashMap_put`, and again after
    `hashMap_get`, the call refers to it; in between the map does. -/
def QueueCall.data (call : QueueCall) (entry : Option Nat) : Option Nat :=
  match call with
  | .created address | .joining address | .joined address => some address
  | .put | .added | .removing | .removeLocked => entry
  | .absent | .adding | .addLocked | .erased | .removed => none

def Serves (memory : Nat → Option (ThreadData QueueService)) (service : QueueService) (address : Nat) : Prop :=
  ∃ data, memory address = some data ∧ data.service = some service

structure QueueReferences (s : System QueueService DataStoreService) : Prop where
  worker : ∀ thread worker, s.workers thread = some worker →
    ∃ data, s.memory worker.data = some data ∧ data.thread = thread ∧
      ∀ queue, worker.position.queueService = some queue → data.service = some queue
  serves : ∀ service address,
    Serves s.memory service address ↔ (s.queueCalls service).data (s.queueServices service) = some address
  joined : ∀ service address, s.queueCalls service = .joined address →
    ∀ thread worker, s.workers thread = some worker → worker.data ≠ address

section Memory

variable {memory : Nat → Option (ThreadData QueueService)} {changed : Nat} {data : ThreadData QueueService}

theorem serves_write (service : QueueService) (address : Nat) :
    Serves (Function.update memory changed (some data)) service address ↔
      (address = changed ∧ data.service = some service) ∨ (address ≠ changed ∧ Serves memory service address) := by
  by_cases here : address = changed
  · simp [Serves, here]
  · simp [Serves, here]

theorem serves_free (service : QueueService) (address : Nat) :
    Serves (Function.update memory changed none) service address ↔
      address ≠ changed ∧ Serves memory service address := by
  by_cases here : address = changed
  · simp [Serves, here]
  · simp [Serves, here]

theorem Serves.allocated {service : QueueService} {address : Nat} (serves : Serves memory service address) :
    memory address ≠ none := by
  obtain ⟨data, found, _⟩ := serves
  simp [found]

theorem Serves.unique {service other : QueueService} {address : Nat} (serves : Serves memory service address)
    (serves' : Serves memory other address) : service = other := by
  obtain ⟨data, found, first⟩ := serves
  obtain ⟨data', found', second⟩ := serves'
  cases found.symm.trans found'
  exact Option.some.inj (first.symm.trans second)

end Memory

theorem QueueReferences.write (refs : QueueReferences s) {changed : Nat} {data data' : ThreadData QueueService}
    (found : s.memory changed = some data) (thread : data'.thread = data.thread)
    (service : data'.service = data.service) :
    QueueReferences { s with memory := Function.update s.memory changed (some data') } where
  worker := by
    intro runner worker running
    obtain ⟨own, allocated, self, refers⟩ := refs.worker runner worker running
    by_cases here : worker.data = changed
    · rw [here, found] at allocated
      cases allocated
      refine ⟨data', by simp [here], thread.trans self, fun queue fetched => ?_⟩
      rw [service]
      exact refers queue fetched
    · exact ⟨own, by simpa [here] using allocated, self, refers⟩
  serves := by
    intro other target
    rw [← refs.serves, serves_write]
    by_cases here : target = changed
    · simp [here, service, Serves, found]
    · simp [here]
  joined := refs.joined

section Calls

variable [DecidableEq QueueService]

theorem QueueReferences.relabel (refs : QueueReferences s) {service : QueueService} {call : QueueCall}
    {entry : Option Nat} (same : call.data entry = (s.queueCalls service).data (s.queueServices service))
    (open' : ∀ address, call ≠ .joined address) :
    QueueReferences { s.queueAt service call with
      queueServices := Function.update s.queueServices service entry } where
  worker := refs.worker
  serves := by
    intro other address
    by_cases here : other = service
    · subst here
      simpa [System.queueAt, same] using refs.serves other address
    · simpa [System.queueAt, here] using refs.serves other address
  joined := by
    intro other address joined
    by_cases here : other = service
    · simp [System.queueAt, here, open'] at joined
    · apply refs.joined other address
      simpa [System.queueAt, here] using joined

theorem QueueReferences.queueAt (refs : QueueReferences s) {service : QueueService} {call : QueueCall}
    (same : call.data (s.queueServices service) = (s.queueCalls service).data (s.queueServices service))
    (open' : ∀ address, call ≠ .joined address) : QueueReferences (s.queueAt service call) := by
  have relabelled := refs.relabel same open'
  rw [Function.update_eq_self] at relabelled
  exact relabelled

theorem QueueReferences.serves_create (refs : QueueReferences s) {service : QueueService} {data thread : Nat}
    (locked : s.queueCalls service = .addLocked) (unused : s.memory data = none) (other : QueueService)
    (address : Nat) :
    Serves (Function.update s.memory data (some ⟨thread, false, some service, 0, 0⟩)) other address ↔
      (Function.update s.queueCalls service (.created data) other).data (s.queueServices other) = some address := by
  rw [serves_write]
  by_cases here : other = service
  · subst here
    have absent : ¬ Serves s.memory other address := by
      rw [refs.serves, locked]
      exact Option.some_ne_none address ∘ Eq.symm
    simp [absent, QueueCall.data, eq_comm]
  · have apart : Serves s.memory other address → address ≠ data := by
      intro serves same
      exact serves.allocated (same ▸ unused)
    rw [Function.update_of_ne here, ← refs.serves]
    constructor
    · intro cases'
      rcases cases' with ⟨_, same⟩ | ⟨_, serves⟩
      · exact absurd (Option.some.inj same).symm here
      · exact serves
    · intro serves
      exact .inr ⟨apart serves, serves⟩

theorem QueueReferences.create (refs : QueueReferences s) {service : QueueService} {data thread : Nat}
    (locked : s.queueCalls service = .addLocked) (taken : s.create service data thread = some t) :
    QueueReferences t := by
  rw [System.create] at taken
  split at taken
  · rename_i unused
    cases taken
    refine ⟨?_, refs.serves_create locked unused.1, ?_⟩
    · intro other worker running
      rcases update_some_iff.mp running with ⟨here, born⟩ | ⟨_, earlier⟩
      · subst here born
        exact ⟨⟨other, false, some service, 0, 0⟩, by simp, rfl, fun queue refers => by cases refers⟩
      · obtain ⟨found, allocated, known⟩ := refs.worker other worker earlier
        have elsewhere : worker.data ≠ data := by
          intro same
          rw [same, unused.1] at allocated
          cases allocated
        exact ⟨found, by simpa [elsewhere] using allocated, known⟩
    · intro other address joined runner worker running
      have elsewhere : other ≠ service := by
        intro same
        simp [System.queueAt, same] at joined
      have earlier : s.queueCalls other = .joined address := by simpa [System.queueAt, elsewhere] using joined
      rcases update_some_iff.mp running with ⟨_, born⟩ | ⟨_, before⟩
      · -- the data of the joined thread is still allocated
        have kept : Serves s.memory other address := by
          rw [refs.serves, earlier]
          rfl
        rw [born]
        intro same
        exact kept.allocated (same ▸ unused.1)
      · exact refs.joined other address earlier runner worker before
  · cases taken

theorem QueueReferences.clearRunning (refs : QueueReferences s) {service : QueueService}
    (locked : s.queueCalls service = .removeLocked) (taken : s.clearRunning service = some t) :
    QueueReferences t := by
  obtain ⟨address, entry, inner⟩ := Option.bind_eq_some_iff.mp taken
  obtain ⟨data, found, rfl⟩ := Option.map_eq_some_iff.mp inner
  have same : (QueueCall.joining address).data (s.queueServices service) =
      (s.queueCalls service).data (s.queueServices service) := by
    rw [locked, entry]
    rfl
  have named : QueueReferences (s.queueAt service (.joining address)) :=
    refs.queueAt same (fun _ other => by cases other)
  exact named.write found rfl rfl

theorem QueueReferences.join (refs : QueueReferences s) {service : QueueService} {address : Nat}
    (joining : s.queueCalls service = .joining address) (taken : s.join service address = some t) :
    QueueReferences t := by
  obtain ⟨data, found, inner⟩ := Option.bind_eq_some_iff.mp taken
  obtain ⟨worker, running, ended⟩ := Option.bind_eq_some_iff.mp inner
  split at ended
  · cases ended
    refine ⟨fun runner other kept => refs.worker runner other (update_none_iff.mp kept).2, ?_, ?_⟩
    · intro other target
      by_cases here : other = service
      · subst here
        have known := refs.serves other target
        rw [joining] at known
        simpa [System.queueAt, QueueCall.data] using known
      · simpa [System.queueAt, here] using refs.serves other target
    · intro other target joined runner third kept
      obtain ⟨survivor, earlier⟩ := update_none_iff.mp kept
      by_cases here : other = service
      · -- a thread with the freed data would have the id of the joined thread
        have same : target = address := by simpa [System.queueAt, here] using joined.symm
        intro reused
        obtain ⟨own, allocated, self, _⟩ := refs.worker runner third earlier
        rw [reused, same, found] at allocated
        cases allocated
        exact survivor self.symm
      · exact refs.joined other target (by simpa [System.queueAt, here] using joined) runner third earlier
  · cases ended

theorem QueueReferences.erase (refs : QueueReferences s) {service : QueueService} {address : Nat}
    (joined : s.queueCalls service = .joined address) :
    QueueReferences { s.queueAt service .erased with
      queueServices := Function.update s.queueServices service none
      memory := Function.update s.memory address none } := by
  have freed : Serves s.memory service address := by
    rw [refs.serves, joined]
    rfl
  refine ⟨?_, ?_, ?_⟩
  · intro runner worker running
    obtain ⟨data, allocated, known⟩ := refs.worker runner worker running
    have kept := refs.joined service address joined runner worker running
    exact ⟨data, by simpa [kept] using allocated, known⟩
  · intro other target
    refine (serves_free other target).trans ?_
    by_cases here : other = service
    · subst here
      have known := refs.serves other target
      rw [joined] at known
      simp [known, System.queueAt, QueueCall.data, eq_comm]
    · have kept : Serves s.memory other target → target ≠ address := by
        intro serves same
        exact here (serves.unique (same ▸ freed))
      have known := refs.serves other target
      simp only [System.queueAt, Function.update_of_ne here]
      rw [← known]
      exact ⟨And.right, fun serves => ⟨kept serves, serves⟩⟩
  · intro other target joining
    by_cases here : other = service
    · simp [System.queueAt, here] at joining
    · apply refs.joined other target
      simpa [System.queueAt, here] using joining

theorem QueueReferences.advance (refs : QueueReferences s) {service : QueueService} {before : QueueCall}
    (after : QueueCall) (at' : s.queueCalls service = before) (same : ∀ entry, after.data entry = before.data entry)
    (open' : ∀ address, after ≠ .joined address) (queueLock : ReadWriteLock Nat QueueService) :
    QueueReferences { s.queueAt service after with queueLock } := by
  have named : QueueReferences (s.queueAt service after) := by
    apply refs.queueAt _ open'
    rw [at', same]
  exact ⟨named.worker, named.serves, named.joined⟩

theorem QueueReferences.queueCall (refs : QueueReferences s) {service : QueueService} {data thread : Nat}
    (taken : s.queueCall service data thread = some t) : QueueReferences t := by
  rw [System.queueCall] at taken
  split at taken
  · rename_i at'
    cases taken
    exact refs.advance .adding at' (fun _ => rfl) (by simp) s.queueLock
  · rename_i at'
    obtain ⟨lock, _, rfl⟩ := Option.map_eq_some_iff.mp taken
    exact refs.advance .addLocked at' (fun _ => rfl) (by simp) lock
  · rename_i at'
    exact refs.create at' taken
  · rename_i address at'
    cases taken
    apply refs.relabel _ (by simp)
    rw [at']
    rfl
  · rename_i at'
    obtain ⟨lock, _, rfl⟩ := Option.map_eq_some_iff.mp taken
    exact refs.advance .added at' (fun _ => rfl) (by simp) lock
  · rename_i at'
    cases taken
    exact refs.advance .removing at' (fun _ => rfl) (by simp) s.queueLock
  · rename_i at'
    obtain ⟨lock, _, rfl⟩ := Option.map_eq_some_iff.mp taken
    exact refs.advance .removeLocked at' (fun _ => rfl) (by simp) lock
  · rename_i at'
    exact refs.clearRunning at' taken
  · rename_i address at'
    exact refs.join at' taken
  · rename_i address at'
    cases taken
    exact refs.erase at'
  · rename_i at'
    obtain ⟨lock, _, rfl⟩ := Option.map_eq_some_iff.mp taken
    exact refs.advance .removed at' (fun _ => rfl) (by simp) lock
  · cases taken

end Calls

theorem QueueReferences.work (refs : QueueReferences s) {thread : Nat} {choice : Choice}
    (taken : s.work rates thread choice = some t) : QueueReferences t := by
  obtain ⟨worker, data, effect, lock, running, found, follows, _, rfl⟩ := work_some taken
  have written := refs.write found follows.thread follows.service
  obtain ⟨own, allocated, self, refers⟩ := refs.worker thread worker running
  cases found.symm.trans allocated
  refine ⟨?_, written.serves, ?_⟩
  · intro runner other moved
    rcases update_some_iff.mp moved with ⟨here, same⟩ | ⟨_, earlier⟩
    · subst here same
      refine ⟨effect.data, by simp, follows.thread.trans self, fun queue fetched => ?_⟩
      rw [follows.service]
      rcases follows.queue queue fetched with read | kept
      · exact read
      · exact refers queue kept
    · exact written.worker runner other earlier
  · intro service address joined runner other moved
    rcases update_some_iff.mp moved with ⟨_, same⟩ | ⟨_, earlier⟩
    · rw [same]
      exact refs.joined service address joined thread worker running
    · exact refs.joined service address joined runner other earlier


theorem QueueReferences.dataStoreCall [DecidableEq DataStoreService] (refs : QueueReferences s)
    {service : DataStoreService} (taken : s.dataStoreCall service = some t) : QueueReferences t := by
  rw [System.dataStoreCall] at taken
  split at taken
  case h_9 => cases taken
  all_goals first
    | cases taken
      exact ⟨refs.worker, refs.serves, refs.joined⟩
    | obtain ⟨lock, _, rfl⟩ := Option.map_eq_some_iff.mp taken
      exact ⟨refs.worker, refs.serves, refs.joined⟩

end Celix.Processor
