import Demonstrator.Celix.Processor.Services
import Demonstrator.Transition.Updates

namespace Celix.Processor

open Locking Transition

variable {QueueService DataStoreService : Type} {s t : System QueueService DataStoreService} {rates : Rates}

def DataStoreCall.Locked : DataStoreCall → Prop
  | .addLocked | .listed | .removeLocked | .delisted => True
  | .absent | .adding | .added | .removing | .removed => False

def DataStoreCall.Listed : DataStoreCall → Prop
  | .listed | .added | .removing | .removeLocked => True
  | .absent | .adding | .addLocked | .delisted | .removed => False

def System.Sending (s : System QueueService DataStoreService) (thread : Nat) : Prop :=
  ∃ worker, s.workers thread = some worker ∧ worker.position.InSendResult

structure StoreReferences (s : System QueueService DataStoreService) : Prop where
  reads : ReadWriteLock.Reads s.Sending s.dataStoreLock
  writes : ReadWriteLock.Writes (fun store => (s.dataStoreCalls store).Locked) s.dataStoreLock
  distinct : s.dataStoreServices.Nodup
  listed : ∀ store ∈ s.dataStoreServices, (s.dataStoreCalls store).Listed
  fetched : ∀ thread worker store, s.workers thread = some worker → worker.position.dsService = some store →
    store ∈ s.dataStoreServices

theorem StoreReferences.threads (refs : StoreReferences s) (lock : t.dataStoreLock = s.dataStoreLock)
    (calls : t.dataStoreCalls = s.dataStoreCalls) (stores : t.dataStoreServices = s.dataStoreServices)
    (workers : ∀ thread worker, t.workers thread = some worker → worker.position.InSendResult →
      s.workers thread = some worker) : StoreReferences t where
  reads := by
    intro thread sending
    obtain ⟨worker, running, inside⟩ := sending
    rw [lock]
    exact refs.reads thread ⟨worker, workers thread worker running inside, inside⟩
  writes := by
    rw [lock, calls]
    exact refs.writes
  distinct := by
    rw [stores]
    exact refs.distinct
  listed := by
    rw [stores, calls]
    exact refs.listed
  fetched := by
    intro thread worker store running refers
    rw [stores]
    have inside := Position.inSendResult_of_dsService refers
    exact refs.fetched thread worker store (workers thread worker running inside) refers

theorem StoreReferences.queueCall [DecidableEq QueueService] (refs : StoreReferences s) {service : QueueService}
    {data thread : Nat} (taken : s.queueCall service data thread = some t) : StoreReferences t := by
  rw [System.queueCall] at taken
  split at taken
  case h_3 =>
    rw [System.create] at taken
    split at taken
    · cases taken
      refine refs.threads rfl rfl rfl ?_
      intro runner worker running inside
      rcases update_some_iff.mp running with ⟨_, born⟩ | ⟨_, earlier⟩
      · rw [born] at inside
        cases inside
      · exact earlier
    · cases taken
  case h_8 =>
    obtain ⟨address, _, inner⟩ := Option.bind_eq_some_iff.mp taken
    obtain ⟨own, _, rfl⟩ := Option.map_eq_some_iff.mp inner
    exact refs.threads rfl rfl rfl fun _ _ running _ => running
  case h_9 address at' =>
    obtain ⟨own, _, inner⟩ := Option.bind_eq_some_iff.mp taken
    obtain ⟨ended, _, joined⟩ := Option.bind_eq_some_iff.mp inner
    split at joined
    · cases joined
      refine refs.threads rfl rfl rfl ?_
      intro runner worker running _
      exact (update_none_iff.mp running).2
    · cases joined
  case h_12 => cases taken
  all_goals first
    | cases taken
      exact refs.threads rfl rfl rfl fun _ _ running _ => running
    | obtain ⟨lock, _, rfl⟩ := Option.map_eq_some_iff.mp taken
      exact refs.threads rfl rfl rfl fun _ _ running _ => running

section Calls

variable [DecidableEq DataStoreService]

theorem dataStoreCalls_at (service other : DataStoreService) (call : DataStoreCall) :
    (s.dataStoreAt service call).dataStoreCalls other = if other = service then call else s.dataStoreCalls other := by
  simp [System.dataStoreAt, Function.update_apply]

theorem StoreReferences.listed_at (refs : StoreReferences s) {service : DataStoreService}
    {before : DataStoreCall} (after : DataStoreCall) (at' : s.dataStoreCalls service = before)
    (kept : before.Listed → after.Listed) :
    ∀ store ∈ s.dataStoreServices, ((s.dataStoreAt service after).dataStoreCalls store).Listed := by
  intro store member
  have known := refs.listed store member
  rw [dataStoreCalls_at]
  split
  · rename_i same
    rw [same, at'] at known
    exact kept known
  · exact known

theorem StoreReferences.outside (refs : StoreReferences s) {service : DataStoreService} {before : DataStoreCall}
    (after : DataStoreCall) (at' : s.dataStoreCalls service = before) (kept : before.Listed → after.Listed)
    (free : ¬ after.Locked) : StoreReferences (s.dataStoreAt service after) where
  reads := refs.reads
  writes := refs.writes.update_outside free
  distinct := refs.distinct
  listed := refs.listed_at after at' kept
  fetched := refs.fetched

theorem StoreReferences.lock (refs : StoreReferences s) {service : DataStoreService} {before : DataStoreCall}
    {lock : ReadWriteLock Nat DataStoreService} (after : DataStoreCall) (at' : s.dataStoreCalls service = before)
    (kept : before.Listed → after.Listed) (taken : s.dataStoreLock.acquireWrite service = some lock) :
    StoreReferences { s.dataStoreAt service after with dataStoreLock := lock } where
  reads := refs.reads.acquireWrite taken
  writes := refs.writes.update_acquire taken
  distinct := refs.distinct
  listed := refs.listed_at after at' kept
  fetched := refs.fetched

theorem StoreReferences.unlock (refs : StoreReferences s) {service : DataStoreService} {before : DataStoreCall}
    {lock : ReadWriteLock Nat DataStoreService} (after : DataStoreCall) (at' : s.dataStoreCalls service = before)
    (kept : before.Listed → after.Listed) (free : ¬ after.Locked)
    (left : s.dataStoreLock.releaseWrite service = some lock) :
    StoreReferences { s.dataStoreAt service after with dataStoreLock := lock } where
  reads := refs.reads.releaseWrite left
  writes := refs.writes.update_release left free
  distinct := refs.distinct
  listed := refs.listed_at after at' kept
  fetched := refs.fetched

theorem StoreReferences.add (refs : StoreReferences s) {service : DataStoreService}
    (at' : s.dataStoreCalls service = .addLocked) :
    StoreReferences { s.dataStoreAt service .listed with
      dataStoreServices := s.dataStoreServices ++ [service] } where
  reads := refs.reads
  writes := by
    apply refs.writes.update_inside
    rw [at']
    exact True.intro
  distinct := by
    have absent : service ∉ s.dataStoreServices := by
      intro member
      have known := refs.listed service member
      rw [at'] at known
      exact known
    have ended := refs.distinct.concat absent
    rw [List.concat_eq_append] at ended
    exact ended
  listed := by
    intro store member
    rcases List.mem_append.mp member with earlier | new
    · exact refs.listed_at .listed at' False.elim store earlier
    · rw [List.mem_singleton.mp new, dataStoreCalls_at, if_pos rfl]
      exact True.intro
  fetched := by
    intro thread worker store running refers
    exact List.mem_append_left _ (refs.fetched thread worker store running refers)

/-- The element leaves the list while no thread is between `arrayList_get` and the unlock. -/
theorem StoreReferences.remove (refs : StoreReferences s) {service : DataStoreService}
    (at' : s.dataStoreCalls service = .removeLocked) :
    StoreReferences { s.dataStoreAt service .delisted with
      dataStoreServices := s.dataStoreServices.erase service } where
  reads := refs.reads
  writes := by
    apply refs.writes.update_inside
    rw [at']
    exact True.intro
  distinct := refs.distinct.erase service
  listed := by
    intro store member
    obtain ⟨different, earlier⟩ := refs.distinct.mem_erase_iff.mp member
    rw [dataStoreCalls_at, if_neg different]
    exact refs.listed store earlier
  fetched := by
    intro thread worker store running refers
    have writing : s.dataStoreLock.writer = some service := by
      apply refs.writes service
      rw [at']
      exact True.intro
    have sending : s.Sending thread := ⟨worker, running, Position.inSendResult_of_dsService refers⟩
    exact absurd sending (refs.reads.excluded writing thread)

theorem StoreReferences.dataStoreCall (refs : StoreReferences s) {service : DataStoreService}
    (taken : s.dataStoreCall service = some t) : StoreReferences t := by
  rw [System.dataStoreCall] at taken
  split at taken
  · rename_i at'
    cases taken
    exact refs.outside .adding at' False.elim id
  · rename_i at'
    obtain ⟨lock, acquired, rfl⟩ := Option.map_eq_some_iff.mp taken
    exact refs.lock .addLocked at' False.elim acquired
  · rename_i at'
    cases taken
    exact refs.add at'
  · rename_i at'
    obtain ⟨lock, released, rfl⟩ := Option.map_eq_some_iff.mp taken
    exact refs.unlock .added at' id id released
  · rename_i at'
    cases taken
    exact refs.outside .removing at' id id
  · rename_i at'
    obtain ⟨lock, acquired, rfl⟩ := Option.map_eq_some_iff.mp taken
    exact refs.lock .removeLocked at' id acquired
  · rename_i at'
    cases taken
    exact refs.remove at'
  · rename_i at'
    obtain ⟨lock, released, rfl⟩ := Option.map_eq_some_iff.mp taken
    exact refs.unlock .removed at' False.elim id released
  · cases taken

end Calls

section Work

variable {thread : Nat} {worker : Worker QueueService DataStoreService} {data : ThreadData QueueService}
  {effect : Effect QueueService DataStoreService} {lock : ReadWriteLock Nat DataStoreService}

theorem reads_use {inside later : Nat → Prop} (reads : ReadWriteLock.Reads inside s.dataStoreLock)
    (use : effect.lock.apply s.dataStoreLock thread = some lock)
    (others : ∀ other, other ≠ thread → later other → inside other)
    (keep : effect.lock = .keep → later thread → inside thread)
    (release : effect.lock = .releaseRead → ¬ later thread) : ReadWriteLock.Reads later lock := by
  cases kind : effect.lock with
  | keep =>
    rw [kind] at use
    cases use
    intro other sending
    by_cases here : other = thread
    · subst here
      exact reads other (keep kind sending)
    · exact reads other (others other here sending)
  | acquireRead =>
    rw [kind] at use
    exact reads.acquireRead use others
  | releaseRead =>
    rw [kind] at use
    exact reads.releaseRead use (release kind) others

theorem writes_use {inside : DataStoreService → Prop} (writes : ReadWriteLock.Writes inside s.dataStoreLock)
    (use : effect.lock.apply s.dataStoreLock thread = some lock) : ReadWriteLock.Writes inside lock := by
  cases kind : effect.lock with
  | keep =>
    rw [kind] at use
    cases use
    exact writes
  | acquireRead =>
    rw [kind] at use
    exact writes.acquireRead use
  | releaseRead =>
    rw [kind] at use
    exact writes.releaseRead use

end Work

theorem StoreReferences.work (refs : StoreReferences s) {thread : Nat} {choice : Choice}
    (taken : s.work rates thread choice = some t) : StoreReferences t := by
  obtain ⟨worker, data, effect, lock, running, _, follows, use, rfl⟩ := work_some taken
  refine ⟨?_, writes_use refs.writes use, refs.distinct, refs.listed, ?_⟩
  · apply reads_use refs.reads use
    · intro other different sending
      obtain ⟨third, found, inside⟩ := sending
      rcases update_some_iff.mp found with ⟨same, _⟩ | ⟨_, earlier⟩
      · exact absurd same different
      · exact ⟨third, earlier, inside⟩
    · intro kept sending
      obtain ⟨third, found, inside⟩ := sending
      rcases update_some_iff.mp found with ⟨_, same⟩ | ⟨different, _⟩
      · rw [same] at inside
        exact ⟨worker, running, follows.keep kept inside⟩
      · exact absurd rfl different
    · intro released sending
      obtain ⟨third, found, inside⟩ := sending
      rcases update_some_iff.mp found with ⟨_, same⟩ | ⟨different, _⟩
      · rw [same] at inside
        exact follows.release released inside
      · exact absurd rfl different
  · intro runner third store found refers
    rcases update_some_iff.mp found with ⟨_, same⟩ | ⟨_, earlier⟩
    · rw [same] at refers
      rcases follows.store store refers with listed | kept
      · exact listed
      · exact refs.fetched thread worker store running kept
    · exact refs.fetched runner third store earlier refers

end Celix.Processor
