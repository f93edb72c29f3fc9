import Demonstrator.Celix.SampleQueue.Transfer
import Demonstrator.Fifo.Bounded

namespace Celix.SampleQueue

open Fifo

variable {Sample : Type}

/-- `sampleQueue_put` for one sample after the other, each with a flag that is false before; the flags
    afterwards. -/
def putEach : List Sample → SampleQueue Sample → SampleQueue Sample × List Bool
  | [], q => (q, [])
  | sample :: rest, q =>
    let (next, sampleTaken, _) := put true true sample false q
    let later := putEach rest next
    (later.1, sampleTaken :: later.2)

def extend (q : SampleQueue Sample) (items added : List Sample) : SampleQueue Sample :=
  { q with
    queue := some (items ++ added)
    putCnt := q.putCnt + added.length
    currentQueueSize := q.currentQueueSize + added.length }

theorem put_room (sample : Sample) (q : SampleQueue Sample) (items : List Sample) (live : q.queue = some items)
    (room : items.length < MAX_QUEUE_SIZE) :
    put true true sample false q = (q.extend items [sample], true, .success) := by
  simp [put, live, (hasRoom_iff _).mpr room, extend]

theorem put_full (sample : Sample) (q : SampleQueue Sample) (items : List Sample) (live : q.queue = some items)
    (full : ¬ items.length < MAX_QUEUE_SIZE) : put true true sample false q = (q, false, .success) := by
  simp [put, live, hasRoom_iff, full]

theorem extend_nil (q : SampleQueue Sample) (items : List Sample) (live : q.queue = some items) :
    q.extend items [] = q := by
  cases q
  simp_all [extend]

theorem extend_extend (q : SampleQueue Sample) (items first second : List Sample) :
    (q.extend items first).extend (items ++ first) second = q.extend items (first ++ second) := by
  simp only [extend, List.append_assoc, List.length_append, Int.natCast_add, Int.add_assoc]

theorem putEach_fills (samples : List Sample) (q : SampleQueue Sample) (items : List Sample)
    (live : q.queue = some items) :
    (putEach samples q).1 = q.extend items (fitting MAX_QUEUE_SIZE items samples) ∧
      (putEach samples q).2.length = samples.length ∧
      (putEach samples q).2.count true = (fitting MAX_QUEUE_SIZE items samples).length := by
  induction samples generalizing q items with
  | nil =>
    rw [fitting_nil, extend_nil q items live]
    exact ⟨rfl, rfl, rfl⟩
  | cons sample rest ih =>
    by_cases room : items.length < MAX_QUEUE_SIZE
    · obtain ⟨queue, flags, taken⟩ := ih (q.extend items [sample]) (items ++ [sample]) rfl
      rw [fitting_cons_of_room _ _ _ _ room]
      simp only [putEach, put_room sample q items live room]
      rw [queue, extend_extend, List.length_cons, flags, List.count_cons_self, taken]
      exact ⟨rfl, rfl, rfl⟩
    · obtain ⟨queue, flags, taken⟩ := ih q items live
      rw [fitting_of_full _ _ _ room] at queue taken ⊢
      simp only [putEach, put_full sample q items live room]
      rw [queue, List.length_cons, flags, List.count_cons_of_ne (by decide), taken]
      exact ⟨rfl, rfl, rfl⟩

theorem putAllLoop_fills (i : Nat) (samples : List Sample) (loop : PutAllLoop Sample) :
    putAllLoop (fun _ => true) (fun _ => true) i samples loop =
      { items := loop.items ++ fitting MAX_QUEUE_SIZE loop.items samples
        currentQueueSize := loop.currentQueueSize + (fitting MAX_QUEUE_SIZE loop.items samples).length
        samplesAdded := loop.samplesAdded + (fitting MAX_QUEUE_SIZE loop.items samples).length
        appended := loop.appended ++ fitting MAX_QUEUE_SIZE loop.items samples
        status := loop.status } := by
  induction samples generalizing i loop with
  | nil => simp [putAllLoop]
  | cons sample rest ih =>
    by_cases room : loop.items.length < MAX_QUEUE_SIZE
    · rw [fitting_cons_of_room _ _ _ _ room, putAllLoop, if_pos ((hasRoom_iff _).mpr room), if_pos rfl, if_pos rfl, ih]
      simp only [List.append_assoc, List.singleton_append, List.length_cons, PutAllLoop.mk.injEq, true_and,
        and_true]
      push_cast
      omega
    · rw [fitting_of_full _ _ _ room, putAllLoop, if_neg (fun fits => room ((hasRoom_iff _).mp fits))]
      simp

theorem putAll_fills (samples : List Sample) (samplesTaken : Nat) (q : SampleQueue Sample)
    (items : List Sample) (live : q.queue = some items) :
    putAll (fun _ => true) (fun _ => true) samples samplesTaken q =
      { queue := q.extend items (fitting MAX_QUEUE_SIZE items samples)
        samplesTaken := (fitting MAX_QUEUE_SIZE items samples).length
        status := if (fitting MAX_QUEUE_SIZE items samples).length = samples.length then .success
          else .bundleException
        appended := fitting MAX_QUEUE_SIZE items samples } := by
  simp only [putAll, live, putAllLoop_fills, Nat.zero_add, List.nil_append, extend, and_true, ne_eq, ite_not]

/-- `sampleQueue_putAll` is iterated `sampleQueue_put`: the loop stops where the single calls go on to be
    refused. -/
theorem putAll_iterated (samples : List Sample) (samplesTaken : Nat) (q : SampleQueue Sample)
    (items : List Sample) (live : q.queue = some items) :
    let batch := putAll (fun _ => true) (fun _ => true) samples samplesTaken q
    let single := putEach samples q
    batch.queue = single.1 ∧ batch.samplesTaken = single.2.count true ∧
      (batch.status = .success ↔ ∀ sampleTaken ∈ single.2, sampleTaken = true) := by
  intro batch single
  obtain ⟨queue, flags, taken⟩ := putEach_fills samples q items live
  have filled : batch = _ := putAll_fills samples samplesTaken q items live
  have all : (∀ sampleTaken ∈ single.2, sampleTaken = true) ↔
      (fitting MAX_QUEUE_SIZE items samples).length = samples.length := by
    rw [← taken, ← flags, List.count_eq_length]
    exact forall₂_congr fun _ _ => eq_comm
  rw [all, filled]
  refine ⟨queue.symm, taken.symm, ?_⟩
  by_cases complete : (fitting MAX_QUEUE_SIZE items samples).length = samples.length
  · simp [complete]
  · simp [complete]

end Celix.SampleQueue
