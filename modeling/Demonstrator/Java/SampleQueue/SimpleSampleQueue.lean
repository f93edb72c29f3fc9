import Demonstrator.Fifo.Bounded
import Demonstrator.Java.Pipeline.Rounds

open Pipeline (maxQueueSize)

/-- `SimpleSampleQueue` over its `LinkedBlockingQueue`, a FIFO of capacity `MAX_QUEUE_SIZE`. -/
structure SimpleSampleQueue (Sample : Type) where
  mQueue : List Sample
  deriving DecidableEq, Repr

namespace SimpleSampleQueue

variable {Sample : Type}

inductive Exit where
  | illegalArgumentException
  deriving DecidableEq, Repr

def create : SimpleSampleQueue Sample := ⟨[]⟩

def getValue (q : SimpleSampleQueue Sample) : ℚ := (100 * q.mQueue.length) / maxQueueSize

/-- Without an interrupt; `none` while the caller is blocked. -/
def put (q : SimpleSampleQueue Sample) (sample : Sample) : Option (Bool × SimpleSampleQueue Sample) :=
  if q.mQueue.length < maxQueueSize then some (true, ⟨q.mQueue ++ [sample]⟩) else none

def putAllLoop (size : Nat) (q : SimpleSampleQueue Sample) : List Sample → Option (Nat × SimpleSampleQueue Sample)
  | [] => some (size, q)
  | sample :: later =>
    (q.put sample).bind fun result => putAllLoop (if result.1 then size + 1 else size) result.2 later

def putAll (q : SimpleSampleQueue Sample) (samples : List Sample) : Option (Nat × SimpleSampleQueue Sample) :=
  putAllLoop 0 q samples

def take (q : SimpleSampleQueue Sample) : Option (Sample × SimpleSampleQueue Sample) :=
  match q.mQueue with
  | [] => none
  | sample :: rest => some (sample, ⟨rest⟩)

/-- The minimum is not used. The `ArrayList` cannot have a negative capacity. -/
def takeMinMax (q : SimpleSampleQueue Sample) (_min max : Int) :
    Except Exit (List Sample × SimpleSampleQueue Sample) :=
  if max < 0 then .error .illegalArgumentException
  else .ok (q.mQueue.take max.toNat, ⟨q.mQueue.drop max.toNat⟩)

def answer (q : SimpleSampleQueue Sample) : Fifo.Call Sample → Option (Fifo.Answer Sample × SimpleSampleQueue Sample)
  | .put sample => (q.put sample).map fun result => (.put result.1, result.2)
  | .putAll samples => (q.putAll samples).map fun result => (.putAll result.1, result.2)
  | .take => q.take.map fun result => (.take result.1, result.2)
  | .takeBatch min max =>
    match q.takeMinMax min max with
    | .error _ => none
    | .ok result => some (.takeBatch result.1, result.2)

theorem putAllLoop_room (size : Nat) (q : SimpleSampleQueue Sample) (samples : List Sample)
    (room : q.mQueue.length + samples.length ≤ maxQueueSize) :
    putAllLoop size q samples = some (size + samples.length, ⟨q.mQueue ++ samples⟩) := by
  induction samples generalizing size q with
  | nil => simp [putAllLoop]
  | cons sample later ih =>
    rw [List.length_cons] at room
    have free : q.mQueue.length < maxQueueSize := by omega
    have rest : (q.mQueue ++ [sample]).length + later.length ≤ maxQueueSize := by
      rw [List.length_append, List.length_singleton]
      omega
    simp only [putAllLoop, put, free, if_true, Option.bind_some]
    rw [ih (size + 1) ⟨q.mQueue ++ [sample]⟩ rest]
    simp only [List.length_cons, List.append_assoc, List.singleton_append]
    congr 2
    omega

theorem implements_fifo :
    Fifo.Implements maxQueueSize (@answer Sample) fun q contents => q.mQueue = contents where
  put := by
    intro q contents sample held room
    subst held
    exact ⟨⟨q.mQueue ++ [sample]⟩, by simp [answer, put, room], rfl⟩
  putAll := by
    intro q contents samples held room
    subst held
    exact ⟨⟨q.mQueue ++ samples⟩, by simp [answer, putAll, putAllLoop_room 0 q samples room], rfl⟩
  take := by
    intro q sample rest held
    exact ⟨⟨rest⟩, by simp [answer, take, held], rfl⟩
  takeBatch := by
    intro q contents min max held _
    subst held
    have natural : ¬ (max : Int) < 0 := by omega
    exact ⟨⟨q.mQueue.drop max⟩, by simp [answer, takeMinMax, natural], rfl⟩

end SimpleSampleQueue
