import Demonstrator.Celix.SampleQueue.Histories

namespace Celix.SampleQueue

open Transition

variable {Sample : Type}

def System.calling (s : System Sample) : Action Sample → Option (Call Sample)
  | .take _ out => some (.take out)
  | .takeAll _ min max => some (.takeAll min max)
  | .wake client _ => s.blocked client
  | .put _ _ _ _ | .putAll _ _ _ _ | .printStatistics => none

def Call.Answered (call : Call Sample) (before after : List Sample) (report : Report Sample) : Prop :=
  match call, report with
  | .take _, .take removed out status =>
    status = .success ∧ (out = none ∧ removed = [] ∧ after = [] ∨
      ∃ sample, out = some sample ∧ removed = [sample] ∧ before = sample :: after)
  | .takeAll min _, .takeAll removed status => status ≠ .success → after.length < min ∧ removed = []
  | _, .waits => True
  | _, _ => False

def TakesAnswered (s : System Sample) (action : Action Sample) (t : System Sample) : Prop :=
  ∀ call, s.calling action = some call → ∃ before after report,
    s.queue.queue = some before ∧ t.queue.queue = some after ∧
      t.history = s.history ++ [(action, report)] ∧ call.Answered before after report

def Call.Suffice (items : List Sample) : Call Sample → Prop
  | .take _ => items ≠ []
  | .takeAll min _ => min ≤ items.length

/-- A wait fails only while the samples in the queue do not suffice for the call. -/
def ExpiresShort (s : System Sample) : Action Sample → Prop
  | .wake client rc => rc ≠ .zero → ∀ call items, s.blocked client = some call → s.queue.queue = some items →
      ¬ call.Suffice items
  | _ => True

def Alive (s : System Sample) : Prop := s.fault = none ∧ s.queue.queue.isSome

theorem alive_step (s : System Sample) (action : Action Sample) (t : System Sample) (alive : Alive s)
    (h : step s action = some t) : Alive t := by
  obtain ⟨items, live⟩ := Option.isSome_iff_exists.mp alive.2
  obtain ⟨report, left, advance⟩ := step_advance live alive.1 h
  refine ⟨advance.fault, ?_⟩
  rcases advance.queue with ⟨moved, _⟩ | ⟨_, _, _, reset⟩
  · rw [moved.queue]
    rfl
  · rw [reset]
    exact alive.2

section Exact

variable {s : System Sample} {items : List Sample} {action : Action Sample}

theorem recorded_answered {call : Call Sample} {queue : SampleQueue Sample} {after : List Sample}
    {report : Report Sample} {client : Nat} {blocked : Option (Call Sample)}
    (calling : s.calling action = some call) (live : s.queue.queue = some items) (left : queue.queue = some after) :
    TakesAnswered s action ((s.record action queue report).setBlocked client blocked) ↔
      call.Answered items after report := by
  constructor
  · intro answered
    obtain ⟨before, later, reported, here, there, grown, answer⟩ := answered call calling
    cases live.symm.trans here
    cases left.symm.trans there
    cases List.append_cancel_left grown
    exact answer
  · intro answer other called
    cases calling.symm.trans called
    exact ⟨items, after, report, live, left, rfl, answer⟩

theorem afterTake_answered (live : s.queue.queue = some items) (client : Nat) (rc : WaitCode) (out : Option Sample)
    (calling : s.calling action = some (.take out)) :
    TakesAnswered s action (s.afterTake action client out (takeSection rc out s.queue)) ↔
      (rc ≠ .zero → ¬ (Call.take out).Suffice items) := by
  have deciding := takeSection_case rc out live
  generalize takeSection rc out s.queue = reached at deciding
  cases deciding with
  | waits =>
    refine (recorded_answered calling live live).trans ?_
    simp [Call.Answered, Call.Suffice]
  | empty =>
    refine (recorded_answered calling live live).trans ?_
    simp [Call.Answered, Call.Suffice]
  | removed sample rest woken queue moved =>
    refine (recorded_answered calling live moved.queue).trans ?_
    simp [Call.Answered, woken]
  | failed sample rest expired =>
    refine (recorded_answered calling live live).trans ?_
    simp [Call.Answered, Call.Suffice, expired]

theorem afterTakeAll_answered (live : s.queue.queue = some items) (client : Nat) (rc : WaitCode) (min max : Nat)
    (calling : s.calling action = some (.takeAll min max)) :
    TakesAnswered s action (s.afterTakeAll action client min max (takeAllSection rc min max s.queue)) ↔
      (rc ≠ .zero → ¬ (Call.takeAll min max : Call Sample).Suffice items) := by
  have deciding := takeAllSection_case rc min max live
  generalize takeAllSection rc min max s.queue = reached at deciding
  cases deciding with
  | waits short =>
    refine (recorded_answered calling live live).trans ?_
    simp [Call.Answered, Call.Suffice, short]
  | removed woken queue moved =>
    refine (recorded_answered calling live moved.queue).trans ?_
    simp [Call.Answered, woken]
  | failed expired =>
    refine (recorded_answered calling live live).trans ?_
    simp [Call.Answered, Call.Suffice, expired]

theorem answered_of_no_call {t : System Sample} (silent : s.calling action = none) : TakesAnswered s action t := by
  intro call calling
  cases silent.symm.trans calling

theorem step_answered {t : System Sample} (alive : Alive s) (h : step s action = some t) :
    TakesAnswered s action t ↔ ExpiresShort s action := by
  obtain ⟨items, live⟩ := Option.isSome_iff_exists.mp alive.2
  simp only [step, alive.1, Option.isSome_none, Bool.false_eq_true, if_false] at h
  cases action with
  | put client sample calloc add => exact iff_of_true (answered_of_no_call rfl) True.intro
  | putAll client samples calloc add => exact iff_of_true (answered_of_no_call rfl) True.intro
  | printStatistics => exact iff_of_true (answered_of_no_call rfl) True.intro
  | take client out =>
    dsimp only at h
    split at h
    · cases h
    · cases h
      refine (afterTake_answered live client .zero out rfl).trans ?_
      simp [ExpiresShort]
  | takeAll client min max =>
    dsimp only at h
    split at h
    · cases h
    · cases h
      refine (afterTakeAll_answered live client .zero min max rfl).trans ?_
      simp [ExpiresShort]
  | wake client rc =>
    dsimp only at h
    split at h
    · cases h
    · next out waiting =>
      cases h
      have calling : s.calling (.wake client rc) = some (.take out) := waiting
      refine (afterTake_answered live client rc out calling).trans ?_
      simp [ExpiresShort, waiting, live]
    · next min max waiting =>
      cases h
      have calling : s.calling (.wake client rc) = some (.takeAll min max) := waiting
      refine (afterTakeAll_answered live client rc min max calling).trans ?_
      simp [ExpiresShort, waiting, live]

theorem disabled_expiresShort (alive : Alive s) (h : step s action = none) : ExpiresShort s action := by
  cases action with
  | wake client rc =>
    simp only [step, alive.1, Option.isSome_none, Bool.false_eq_true, if_false] at h
    intro _ call items waiting
    rw [waiting] at h
    cases call <;> cases h
  | _ => exact True.intro

end Exact

/-- Every take of a run is answered, whatever the other clients do, exactly when no wait of the run fails
    although the samples suffice once the mutex is held again. -/
theorem takes_answered_iff (actions : List (Action Sample)) :
    Along step TakesAnswered System.initial actions ↔ Meets step ExpiresShort System.initial actions := by
  refine along_iff_meets alive_step ?_ ?_ ⟨rfl, rfl⟩ actions
  · intro s action t alive taken
    exact step_answered alive taken
  · intro s action alive stuck
    exact disabled_expiresShort alive stuck

/-- The sample arrives after the timeout, before the wait has the mutex again: it stays in the queue, and the
    call fails. -/
theorem takes_fail_on_late_sample :
    ¬ Along step TakesAnswered System.initial [.take 0 none, .put 1 7 true true, .wake 0 .etimedout] ∧
      ¬ Along step TakesAnswered System.initial [.takeAll 0 1 1, .put 1 7 true true, .wake 0 .etimedout] ∧
      (∃ s : System Nat, exec step System.initial [.take 0 none, .put 1 7 true true, .wake 0 .etimedout] = some s ∧
        s.queue.queue = some [7] ∧ s.history.getLast?.map Prod.snd = some (.take [] none .illegalState)) ∧
      ∃ s : System Nat, exec step System.initial [.takeAll 0 1 1, .put 1 7 true true, .wake 0 .etimedout] = some s ∧
        s.queue.queue = some [7] ∧ s.history.getLast?.map Prod.snd = some (.takeAll [] .illegalState) := by
  refine ⟨?_, ?_, ⟨_, rfl, rfl, rfl⟩, _, rfl, rfl, rfl⟩
  · intro along
    obtain ⟨_, along⟩ := along _ rfl
    obtain ⟨_, along⟩ := along _ rfl
    obtain ⟨answered, _⟩ := along _ rfl
    have short := (step_answered ⟨rfl, rfl⟩ rfl).mp answered
    exact short (by decide) _ _ rfl rfl (List.cons_ne_nil _ _)
  · intro along
    obtain ⟨_, along⟩ := along _ rfl
    obtain ⟨_, along⟩ := along _ rfl
    obtain ⟨answered, _⟩ := along _ rfl
    have short := (step_answered ⟨rfl, rfl⟩ rfl).mp answered
    exact short (by decide) _ _ rfl rfl (Nat.le_refl 1)

end Celix.SampleQueue
