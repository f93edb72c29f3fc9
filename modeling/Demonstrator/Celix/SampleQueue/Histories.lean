import Demonstrator.Celix.SampleQueue.Transfer

namespace Celix.SampleQueue

open Transition

variable {Sample : Type}

def WellReported : Action Sample × Report Sample → Prop
  | (.putAll _ samples _ add, .putAll appended samplesTaken _) =>
    appended.length = samplesTaken ∧ appended.Sublist samples ∧
      ((∀ j, j < samples.length → add j = true) → appended <+: samples)
  | (_, .putAll _ _ _) => False
  | (_, .take removed out status) =>
    (status = .success → removed = out.toList) ∧ (status ≠ .success → removed = [])
  | (_, .takeAll removed status) => status ≠ .success → removed = []
  | (_, _) => True

def Report.resetSize : Report Sample → Option Nat
  | .statistics printed => some printed.size
  | _ => none

structure Advance (s : System Sample) (items : List Sample) (action : Action Sample)
    (report : Report Sample) (t : System Sample) (left : List Sample) : Prop where
  fault : t.fault = none
  history : t.history = s.history ++ [(action, report)]
  reported : WellReported (action, report)
  queue :
    (Transfer s.queue items report.exchange t.queue left ∧ report.resetSize = none) ∨
    (report.resetSize = some items.length ∧ report.exchange = ⟨[], []⟩ ∧ left = items ∧
      t.queue = { s.queue with putCnt := 0, takeCnt := 0 })

theorem advance_waits {s : System Sample} {items : List Sample} (live : s.queue.queue = some items)
    (sound : s.fault = none) (action : Action Sample) (client : Nat) (call : Option (Call Sample))
    (reported : WellReported (action, .waits)) :
    Advance s items action .waits ((s.record action s.queue .waits).setBlocked client call) items :=
  ⟨sound, rfl, reported, .inl ⟨Transfer.refl live, rfl⟩⟩

theorem advance_take {s : System Sample} {items : List Sample} (live : s.queue.queue = some items)
    (sound : s.fault = none) (action : Action Sample) (client : Nat) (rc : WaitCode) (out : Option Sample)
    (waiting : WellReported (action, .waits))
    (reported : ∀ removed out status, WellReported (action, .take removed out status) ↔
      (status = .success → removed = out.toList) ∧ (status ≠ .success → removed = [])) :
    ∃ report left, Advance s items action report
      (s.afterTake action client out (takeSection rc out s.queue)) left := by
  rcases takeSection_live rc out s.queue items live with waits | ⟨result, left, returns, moved, given, kept⟩
  · rw [waits]
    exact ⟨.waits, items, advance_waits live sound action client _ waiting⟩
  · rw [returns]
    exact ⟨.take result.removed result.out result.status, left, sound, rfl,
      (reported _ _ _).mpr ⟨given, kept⟩, .inl ⟨moved, rfl⟩⟩

theorem advance_takeAll {s : System Sample} {items : List Sample} (live : s.queue.queue = some items)
    (sound : s.fault = none) (action : Action Sample) (client : Nat) (rc : WaitCode) (min max : Nat)
    (waiting : WellReported (action, .waits))
    (reported : ∀ removed status, WellReported (action, .takeAll removed status) ↔
      (status ≠ .success → removed = [])) :
    ∃ report left, Advance s items action report
      (s.afterTakeAll action client min max (takeAllSection rc min max s.queue)) left := by
  rcases takeAllSection_live rc min max s.queue items live with
    waits | ⟨result, left, returns, moved, _, kept⟩
  · rw [waits]
    exact ⟨.waits, items, advance_waits live sound action client _ waiting⟩
  · rw [returns]
    exact ⟨.takeAll result.removed result.status, left, sound, rfl, (reported _ _).mpr kept,
      .inl ⟨moved, rfl⟩⟩

theorem putAll_reported (calloc add : Nat → Bool) (samples : List Sample) (q : SampleQueue Sample)
    (items : List Sample) (live : q.queue = some items) (client : Nat) :
    WellReported (.putAll client samples calloc add, .putAll (putAll calloc add samples 0 q).appended
      (putAll calloc add samples 0 q).samplesTaken (putAll calloc add samples 0 q).status) := by
  obtain ⟨added, adds⟩ := putAllLoop_adds calloc add 0 samples ⟨items, q.currentQueueSize, 0, [], .success⟩
  have appended : (putAll calloc add samples 0 q).appended = added := by
    simp [putAll, live, adds.appended]
  have taken : (putAll calloc add samples 0 q).samplesTaken = added.length := by
    simp [putAll, live, adds.samplesAdded]
  rw [appended, taken]
  refine ⟨rfl, adds.sublist, fun every => adds.start fun j _ high => every j ?_⟩
  omega

theorem step_advance {s t : System Sample} {items : List Sample} {action : Action Sample}
    (live : s.queue.queue = some items) (sound : s.fault = none) (h : step s action = some t) :
    ∃ report left, Advance s items action report t left := by
  simp only [step, sound, Option.isSome_none, Bool.false_eq_true, if_false] at h
  cases action with
  | put client sample calloc add =>
    dsimp only at h
    split at h
    · cases h
    · cases h
      obtain ⟨left, moved⟩ := put_transfer calloc add sample s.queue items live
      exact ⟨_, left, sound, rfl, True.intro, .inl ⟨moved, rfl⟩⟩
  | putAll client samples calloc add =>
    dsimp only at h
    split at h
    · cases h
    · cases h
      obtain ⟨left, moved⟩ := putAll_transfer calloc add samples s.queue items live
      exact ⟨_, left, sound, rfl, putAll_reported calloc add samples s.queue items live client,
        .inl ⟨moved, rfl⟩⟩
  | take client out =>
    dsimp only at h
    split at h
    · cases h
    · cases h
      exact advance_take live sound _ client .zero out True.intro fun _ _ _ => Iff.rfl
  | takeAll client min max =>
    dsimp only at h
    split at h
    · cases h
    · cases h
      exact advance_takeAll live sound _ client .zero min max True.intro fun _ _ => Iff.rfl
  | wake client rc =>
    dsimp only at h
    split at h
    · cases h
    · cases h
      exact advance_take live sound _ client rc _ True.intro fun _ _ _ => Iff.rfl
    · cases h
      exact advance_takeAll live sound _ client rc _ _ True.intro fun _ _ => Iff.rfl
  | printStatistics =>
    simp only [printStatistics_live s.queue items live] at h
    cases h
    exact ⟨_, items, sound, rfl, True.intro, .inr ⟨rfl, rfl, rfl, rfl⟩⟩

end Celix.SampleQueue
