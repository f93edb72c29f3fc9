import Demonstrator.Celix.StatisticTracker.Polling
import Demonstrator.Transition.Updates

namespace Celix.StatisticTracker

open Locking Transition

variable {StatService : Type} {s t : System StatService}

def StatCall.Locked : StatCall → Prop
  | .addLocked | .created _ | .put | .removeLocked | .unlinked _ => True
  | .absent | .asking | .adding | .added | .removing | .joining _ | .removed _ => False

def StatCall.Entered : StatCall → Prop
  | .put | .added | .removing | .removeLocked => True
  | .absent | .asking | .adding | .addLocked | .created _ | .unlinked _ | .joining _ | .removed _ => False

def Position.Locked : Position StatService → Prop
  | .lookUp | .calling _ _ | .inCall _ _ | .unlocking _ => True
  | .entry | .test _ | .locking | .finished => False

def Position.statService : Position StatService → Option StatService
  | .calling statService _ | .inCall statService _ => some statService
  | _ => none

theorem Position.locked_of_statService {position : Position StatService} {service : StatService}
    (refers : position.statService = some service) : position.Locked := by
  cases position with
  | calling statService function => exact True.intro
  | inCall statService function => exact True.intro
  | _ => cases refers

def System.Polling (s : System StatService) (thread : Nat) : Prop :=
  ∃ position, s.pollers thread = some position ∧ position.Locked

structure References (s : System StatService) : Prop where
  reads : ReadWriteLock.Reads s.Polling s.statLock
  writes : ReadWriteLock.Writes (fun service => (s.calls service).Locked) s.statLock
  entered : ∀ thread service, s.statServices.lookup thread = some service → (s.calls service).Entered
  distinct : ∀ thread other service, s.statServices.lookup thread = some service →
    s.statServices.lookup other = some service → thread = other
  fetched : ∀ thread position service, s.pollers thread = some position → position.statService = some service →
    s.statServices.lookup thread = some service

theorem References.quiet (refs : References s) {service : StatService} (held : (s.calls service).Locked) {thread : Nat}
    {position : Position StatService} (running : s.pollers thread = some position) :
    position.statService = none := by
  by_contra refers
  obtain ⟨other, fetched⟩ := Option.ne_none_iff_exists'.mp refers
  have polling : s.Polling thread := ⟨position, running, Position.locked_of_statService fetched⟩
  exact refs.reads.excluded (refs.writes service held) thread polling

theorem References.threads (refs : References s) (pollers : Nat → Option (Position StatService))
    (kept : ∀ thread position, pollers thread = some position → position.Locked →
      s.pollers thread = some position) : References { s with pollers } where
  reads := by
    intro thread polling
    obtain ⟨position, running, inside⟩ := polling
    exact refs.reads thread ⟨position, kept thread position running inside, inside⟩
  writes := refs.writes
  entered := refs.entered
  distinct := refs.distinct
  fetched := by
    intro thread position service running refers
    have inside := Position.locked_of_statService refers
    exact refs.fetched thread position service (kept thread position running inside) refers

section Calls

variable [DecidableEq StatService] {service : StatService}

theorem calls_at (service other : StatService) (call : StatCall) :
    (s.at service call).calls other = if other = service then call else s.calls other := by
  simp [System.at, Function.update_apply]

theorem References.entered_at (refs : References s) {before : StatCall} (after : StatCall)
    (at' : s.calls service = before) (kept : before.Entered → after.Entered) :
    ∀ thread other, s.statServices.lookup thread = some other → ((s.at service after).calls other).Entered := by
  intro thread other entry
  have known := refs.entered thread other entry
  rw [calls_at]
  split
  · rename_i same
    rw [same, at'] at known
    exact kept known
  · exact known

theorem References.outside (refs : References s) {before : StatCall} (after : StatCall)
    (at' : s.calls service = before) (kept : before.Entered → after.Entered) (free : ¬ after.Locked) :
    References (s.at service after) where
  reads := refs.reads
  writes := refs.writes.update_outside free
  entered := refs.entered_at after at' kept
  distinct := refs.distinct
  fetched := refs.fetched

theorem References.lock (refs : References s) {before : StatCall} {lock : ReadWriteLock Nat StatService}
    (after : StatCall) (at' : s.calls service = before) (kept : before.Entered → after.Entered)
    (taken : s.statLock.acquireWrite service = some lock) :
    References { s.at service after with statLock := lock } where
  reads := refs.reads.acquireWrite taken
  writes := refs.writes.update_acquire taken
  entered := refs.entered_at after at' kept
  distinct := refs.distinct
  fetched := refs.fetched

theorem References.unlock (refs : References s) {before : StatCall} {lock : ReadWriteLock Nat StatService}
    (after : StatCall) (at' : s.calls service = before) (kept : before.Entered → after.Entered)
    (free : ¬ after.Locked) (left : s.statLock.releaseWrite service = some lock) :
    References { s.at service after with statLock := lock } where
  reads := refs.reads.releaseWrite left
  writes := refs.writes.update_release left free
  entered := refs.entered_at after at' kept
  distinct := refs.distinct
  fetched := refs.fetched

theorem References.inside (refs : References s) {before : StatCall} (after : StatCall)
    (at' : s.calls service = before) (kept : before.Entered → after.Entered) (held : before.Locked) :
    References (s.at service after) where
  reads := refs.reads
  writes := by
    apply refs.writes.update_inside
    rw [at']
    exact held
  entered := refs.entered_at after at' kept
  distinct := refs.distinct
  fetched := refs.fetched

theorem References.put (refs : References s) {thread : Nat} (at' : s.calls service = .created thread) :
    References { s.at service .put with statServices := s.statServices.insert thread service } := by
  have locked : (s.calls service).Locked := by
    rw [at']
    exact True.intro
  have absent : ∀ other, s.statServices.lookup other ≠ some service := by
    intro other entry
    have known := refs.entered other service entry
    rw [at'] at known
    exact known
  -- an entry is the new one or an earlier one of another thread and service
  have entries : ∀ other third, (s.statServices.insert thread service).lookup other = some third →
      (other = thread ∧ third = service) ∨
        (other ≠ thread ∧ third ≠ service ∧ s.statServices.lookup other = some third) := by
    intro other third entry
    by_cases same : other = thread
    · subst same
      rw [AList.lookup_insert] at entry
      exact .inl ⟨rfl, (Option.some.inj entry).symm⟩
    · rw [AList.lookup_insert_ne same] at entry
      right
      refine ⟨same, ?_, entry⟩
      intro again
      exact absent other (again ▸ entry)
  refine ⟨refs.reads, refs.writes.update_inside locked, ?_, ?_, ?_⟩
  · intro other third entry
    rcases entries other third entry with ⟨_, same⟩ | ⟨_, different, earlier⟩
    · rw [same, calls_at, if_pos rfl]
      exact True.intro
    · rw [calls_at, if_neg different]
      exact refs.entered other third earlier
  · intro first second third entry entry'
    rcases entries first third entry with ⟨here, same⟩ | ⟨_, different, earlier⟩
    · rcases entries second third entry' with ⟨here', _⟩ | ⟨_, different, _⟩
      · rw [here, here']
      · exact absurd same different
    · rcases entries second third entry' with ⟨_, same⟩ | ⟨_, _, earlier'⟩
      · exact absurd same different
      · exact refs.distinct first second third earlier earlier'
  · intro other position third running refers
    rw [refs.quiet locked running] at refers
    cases refers

theorem References.remove (refs : References s) (at' : s.calls service = .removeLocked) (found : Option Nat)
    (remaining : AList fun _ : Nat => StatService)
    (rest : ∀ thread other, remaining.lookup thread = some other →
      other ≠ service ∧ s.statServices.lookup thread = some other) :
    References { s.at service (.unlinked found) with statServices := remaining } := by
  have locked : (s.calls service).Locked := by
    rw [at']
    exact True.intro
  refine ⟨refs.reads, refs.writes.update_inside locked, ?_, ?_, ?_⟩
  · intro thread other entry
    obtain ⟨different, earlier⟩ := rest thread other entry
    rw [calls_at, if_neg different]
    exact refs.entered thread other earlier
  · intro thread thread' other entry entry'
    exact refs.distinct thread thread' other (rest thread other entry).2 (rest thread' other entry').2
  · intro thread position other running refers
    rw [refs.quiet locked running] at refers
    cases refers

theorem References.unlink (refs : References s) (at' : s.calls service = .removeLocked) :
    References (s.unlink service) := by
  rw [System.unlink]
  split
  · rename_i entry found
    have listed : s.statServices.lookup entry.1 = some service := by
      have same : entry.2 = service := by simpa using List.find?_some found
      rw [← same]
      exact AList.mem_lookup_iff.mpr (List.mem_of_find?_eq_some found)
    apply refs.remove at'
    intro thread other kept
    by_cases here : thread = entry.1
    · rw [here, AList.lookup_erase] at kept
      cases kept
    · rw [AList.lookup_erase_ne here] at kept
      refine ⟨?_, kept⟩
      intro same
      subst same
      exact here (refs.distinct thread entry.1 other kept listed)
  · rename_i missing
    apply refs.remove at'
    intro thread other kept
    refine ⟨?_, kept⟩
    intro same
    have member := AList.mem_lookup_iff.mp kept
    have different := List.find?_eq_none.mp missing _ member
    simp [same] at different

theorem References.call (refs : References s) {thread : Nat} {named : Bool}
    (taken : s.call service thread named = some t) : References t := by
  rw [System.call] at taken
  split at taken
  · rename_i at'
    cases taken
    exact refs.outside .asking at' False.elim id
  · rename_i at'
    cases taken
    cases named with
    | true => exact refs.outside .adding at' False.elim id
    | false => exact refs.outside .added at' False.elim id
  · rename_i at'
    obtain ⟨lock, acquired, rfl⟩ := Option.map_eq_some_iff.mp taken
    exact refs.lock .addLocked at' False.elim acquired
  · rename_i at'
    split at taken
    · cases taken
      apply (refs.inside (.created thread) at' False.elim True.intro).threads
      intro runner position running inside
      rcases update_some_iff.mp running with ⟨_, born⟩ | ⟨_, earlier⟩
      · rw [born] at inside
        cases inside
      · exact earlier
    · cases taken
  · rename_i at'
    cases taken
    exact refs.put at'
  · rename_i at'
    obtain ⟨lock, released, rfl⟩ := Option.map_eq_some_iff.mp taken
    exact refs.unlock .added at' id id released
  · rename_i at'
    cases taken
    exact refs.outside .removing at' id id
  · rename_i at'
    obtain ⟨lock, acquired, rfl⟩ := Option.map_eq_some_iff.mp taken
    exact refs.lock .removeLocked at' id acquired
  · rename_i at'
    cases taken
    exact refs.unlink at'
  · rename_i at'
    obtain ⟨lock, released, rfl⟩ := Option.map_eq_some_iff.mp taken
    exact refs.unlock (.removed false) at' False.elim id released
  · rename_i found at'
    obtain ⟨lock, released, rfl⟩ := Option.map_eq_some_iff.mp taken
    exact refs.unlock (.joining found) at' False.elim id released
  · rename_i ended at'
    split at taken
    · cases taken
      apply (refs.outside (.removed true) at' False.elim id).threads
      intro runner position running _
      exact (update_none_iff.mp running).2
    · cases taken
  · cases taken

end Calls

section Pollers

variable {thread : Nat} {position next : Position StatService}

theorem polling_move (other : Nat) :
    (s.move thread next).Polling other ↔ (other = thread ∧ next.Locked) ∨ (other ≠ thread ∧ s.Polling other) := by
  by_cases here : other = thread
  · simp [System.Polling, System.move, here]
  · simp [System.Polling, System.move, here]

theorem References.move (refs : References s) {lock : ReadWriteLock Nat StatService}
    (reads : ReadWriteLock.Reads (s.move thread next).Polling lock)
    (writes : ReadWriteLock.Writes (fun service => (s.calls service).Locked) lock)
    (refers : ∀ service, next.statService = some service → s.statServices.lookup thread = some service) :
    References { s.move thread next with statLock := lock } where
  reads := reads
  writes := writes
  entered := refs.entered
  distinct := refs.distinct
  fetched := by
    intro runner position service running fetched
    rcases update_some_iff.mp running with ⟨here, same⟩ | ⟨_, earlier⟩
    · subst here same
      exact refers service fetched
    · exact refs.fetched runner position service earlier fetched

theorem References.stay (refs : References s) (running : s.pollers thread = some position)
    (inside : next.Locked → position.Locked)
    (refers : ∀ service, next.statService = some service → s.statServices.lookup thread = some service) :
    References (s.move thread next) := by
  have reads : ReadWriteLock.Reads (s.move thread next).Polling s.statLock := by
    intro other polling
    rcases (polling_move other).mp polling with ⟨here, locked⟩ | ⟨_, earlier⟩
    · rw [here]
      exact refs.reads thread ⟨position, running, inside locked⟩
    · exact refs.reads other earlier
  exact refs.move reads refs.writes refers

theorem others_polling : ∀ other, other ≠ thread → (s.move thread next).Polling other → s.Polling other := by
  intro other different polling
  rcases (polling_move other).mp polling with ⟨here, _⟩ | ⟨_, earlier⟩
  · exact absurd here different
  · exact earlier

theorem References.poll (refs : References s) (taken : s.poll thread = some t) : References t := by
  obtain ⟨position, running, moved⟩ := Option.bind_eq_some_iff.mp taken
  cases position with
  | entry =>
    cases moved
    have tested : References (s.move thread (.test true)) :=
      refs.stay running False.elim (fun _ refers => by cases refers)
    exact ⟨tested.reads, tested.writes, tested.entered, tested.distinct, tested.fetched⟩
  | test success =>
    cases moved
    split_ifs
    · exact refs.stay running False.elim (fun _ refers => by cases refers)
    · exact refs.stay running False.elim (fun _ refers => by cases refers)
  | locking =>
    obtain ⟨lock, acquired, rfl⟩ := Option.map_eq_some_iff.mp moved
    exact refs.move (refs.reads.acquireRead acquired others_polling) (refs.writes.acquireRead acquired)
      (fun _ refers => by cases refers)
  | lookUp =>
    simp only at moved
    split at moved
    · rename_i statService found
      cases moved
      refine refs.stay running (fun _ => True.intro) ?_
      intro service refers
      cases refers
      exact found
    · cases moved
      exact refs.stay running (fun _ => True.intro) (fun _ refers => by cases refers)
  | calling statService function =>
    cases moved
    exact refs.stay running (fun _ => True.intro) fun service refers => refs.fetched thread _ service running refers
  | inCall statService function =>
    simp only at moved
    split at moved
    · cases moved
      exact refs.stay running (fun _ => True.intro) fun service refers => refs.fetched thread _ service running refers
    · cases moved
      exact refs.stay running (fun _ => True.intro) (fun _ refers => by cases refers)
  | unlocking success =>
    obtain ⟨lock, released, rfl⟩ := Option.map_eq_some_iff.mp moved
    have left : ¬ (s.move thread (.test success)).Polling thread := by
      intro polling
      rcases (polling_move thread).mp polling with ⟨_, locked⟩ | ⟨different, _⟩
      · exact locked
      · exact different rfl
    exact refs.move (refs.reads.releaseRead released left others_polling) (refs.writes.releaseRead released)
      (fun _ refers => by cases refers)
  | finished => cases moved

end Pollers

theorem references_initial : References (System.initial : System StatService) where
  reads := by
    intro thread polling
    obtain ⟨position, running, _⟩ := polling
    cases running
  writes := by
    intro service locked
    cases locked
  entered := by
    intro thread service entry
    cases entry
  distinct := by
    intro thread other service entry
    cases entry
  fetched := by
    intro thread position service running
    cases running

theorem references_step [DecidableEq StatService] (refs : References s) {action : Action StatService}
    (taken : s.step action = some t) : References t := by
  cases action with
  | call service thread named => exact refs.call taken
  | stop =>
    cases taken
    exact ⟨refs.reads, refs.writes, refs.entered, refs.distinct, refs.fetched⟩
  | poller thread => exact refs.poll taken

def System.invocation (s : System StatService) : Action StatService → Option (StatService × StatFunction)
  | .poller thread =>
    (s.pollers thread).bind fun position =>
      match position with
      | .calling statService function => some (statService, function)
      | _ => none
  | _ => none

theorem References.not_removed (refs : References s) {action : Action StatService} {service : StatService}
    {function : StatFunction} (calls : s.invocation action = some (service, function)) (success : Bool) :
    s.calls service ≠ .removed success := by
  intro removed
  cases action with
  | poller thread =>
    obtain ⟨position, running, called⟩ := Option.bind_eq_some_iff.mp calls
    split at called
    · cases called
      have known := refs.entered thread service (refs.fetched thread _ service running rfl)
      rw [removed] at known
      exact known
    · cases called
  | _ => cases calls

end Celix.StatisticTracker
