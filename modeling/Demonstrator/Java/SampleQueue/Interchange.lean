import Demonstrator.Celix.SampleQueue.Batches
import Demonstrator.Java.SampleQueue.SimpleSampleQueue
import Mathlib.Tactic.Ring

namespace Celix.SampleQueue

variable {Sample : Type}

def success {Response : Type} (response : Response) : Status → Option Response
  | .success => some response
  | _ => none

/-- The queue as a server of whole calls, when no allocation fails and nobody has to wait: an answer
    comes with `CELIX_SUCCESS`, and that of `takeAll` is what is written to the buffer. -/
def answer (q : SampleQueue Sample) : Fifo.Call Sample → Option (Fifo.Answer Sample × SampleQueue Sample)
  | .put sample =>
    let result := put true true sample false q
    success (.put result.2.1, result.1) result.2.2
  | .putAll samples =>
    let result := putAll (fun _ => true) (fun _ => true) samples 0 q
    success (.putAll result.samplesTaken, result.queue) result.status
  | .take =>
    match takeSection .zero none q with
    | .ok (.returns ⟨queue, some sample, status, _⟩) => success (.take sample, queue) status
    | _ => none
  | .takeBatch min max =>
    match takeAllSection .zero min max q with
    | .returns result => success (.takeBatch result.removed, result.queue) result.status
    | .waits => none

structure Holds (q : SampleQueue Sample) (contents : List Sample) : Prop where
  queue : q.queue = some contents
  size : q.currentQueueSize = contents.length
  maximum : q.maxQueueSize = MAX_QUEUE_SIZE

theorem implements_fifo : Fifo.Implements MAX_QUEUE_SIZE (@answer Sample) Holds where
  put := by
    rintro q contents sample ⟨queue, size, maximum⟩ room
    have free : HasRoom contents := (hasRoom_iff _).mpr room
    refine ⟨{ q with
      queue := some (contents ++ [sample])
      putCnt := q.putCnt + 1
      currentQueueSize := q.currentQueueSize + 1 }, by simp [answer, put, queue, free, success], rfl, ?_, maximum⟩
    simp [size]
  putAll := by
    rintro q contents samples ⟨queue, size, maximum⟩ room
    have whole : Fifo.fitting MAX_QUEUE_SIZE contents samples = samples := Fifo.fitting_of_le _ _ room
    have filled := putAll_fills samples 0 q contents queue
    rw [whole] at filled
    refine ⟨q.extend contents samples, ?_, rfl, ?_, maximum⟩
    · simp [answer, filled, success]
    · simp [extend, size]
  take := by
    rintro q sample rest ⟨queue, size, maximum⟩
    refine ⟨{ q with
      queue := some rest
      takeCnt := q.takeCnt + 1
      currentQueueSize := q.currentQueueSize - 1 },
      by simp [answer, takeSection, takeWaits, queue, success], rfl, ?_, maximum⟩
    simp [size]
  takeBatch := by
    rintro q contents min max ⟨queue, size, maximum⟩ enough
    have ready : takeAllWaits .zero min q = false := by simp [takeAllWaits, queue, enough]
    refine ⟨{ q with
      queue := some (contents.drop max)
      takeCnt := q.takeCnt + (contents.take max).length
      currentQueueSize := q.currentQueueSize - (contents.take max).length },
      by simp [answer, takeAllSection, ready, queue, takeAllLoop_eq, success], rfl, ?_, maximum⟩
    simp only [size, List.length_take, List.length_drop]
    omega

end Celix.SampleQueue

namespace SimpleSampleQueue

open Celix

variable {Sample : Type}

theorem getValue_agrees {java : SimpleSampleQueue Sample} {celix : Celix.SampleQueue Sample}
    (holds : celix.Holds java.mQueue) : celix.getUtilizationStatsValue = java.getValue := by
  rw [Celix.SampleQueue.getUtilizationStatsValue, getValue, holds.size, holds.maximum]
  simp only [MAX_QUEUE_SIZE, Pipeline.maxQueueSize]
  push_cast
  ring

/-- Inside their capacity the two queues give the same answers and hold the same samples, whatever the
    calls. -/
theorem queues_interchangeable (calls : List (Fifo.Call Sample)) (within : Fifo.Within 10000 [] calls) :
    ∃ answers java celix,
      Fifo.session SimpleSampleQueue.answer (create : SimpleSampleQueue Sample) calls = some (answers, java) ∧
      Fifo.session Celix.SampleQueue.answer (Celix.SampleQueue.create : Celix.SampleQueue Sample) calls =
        some (answers, celix) ∧
      celix.queue = some java.mQueue ∧ celix.getUtilizationStatsValue = java.getValue := by
  have empty : Celix.SampleQueue.Holds (Celix.SampleQueue.create : Celix.SampleQueue Sample) [] := ⟨rfl, rfl, rfl⟩
  obtain ⟨answers, contents, java, expected, given, held⟩ :=
    SimpleSampleQueue.implements_fifo.session calls (rfl : (create : SimpleSampleQueue Sample).mQueue = []) within
  obtain ⟨answers', contents', celix, expected', given', holds⟩ :=
    Celix.SampleQueue.implements_fifo.session calls empty within
  cases expected.symm.trans expected'
  subst held
  exact ⟨answers, java, celix, given, given', holds.queue, getValue_agrees holds⟩

def batches : List (Fifo.Call Nat) :=
  [.putAll [1, 2, 3], .put 4, .take, .takeBatch 2 0, .takeBatch 2 1, .takeBatch 1 9]

theorem queues_interchangeable_batches :
    Fifo.Within 10000 [] batches ∧
    ∃ answers java celix,
      Fifo.session SimpleSampleQueue.answer create batches = some (answers, java) ∧
      Fifo.session Celix.SampleQueue.answer Celix.SampleQueue.create batches = some (answers, celix) ∧
      celix.queue = some java.mQueue ∧ celix.getUtilizationStatsValue = java.getValue := by
  have within : Fifo.Within 10000 [] batches := by simp [batches, Fifo.Within, Fifo.Suits, Fifo.respond]
  exact ⟨within, queues_interchangeable batches within⟩

end SimpleSampleQueue
