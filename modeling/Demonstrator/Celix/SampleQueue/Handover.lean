import Demonstrator.Celix.SampleQueue.Transfer

namespace Celix.SampleQueue

variable {Sample : Type}

structure SampleSequence where
  cap : Nat
  len : Nat
  buf : Nat
  deriving DecidableEq, Repr

structure CallerMemory (Sample : Type) where
  sequences : Nat → Option SampleSequence
  buffers : Nat → Option (List Sample)
  samples : Option Nat

def copySample (m : CallerMemory Sample) (buf i : Nat) (sample : Sample) : Except Fault (CallerMemory Sample) :=
  match m.buffers buf with
  | none => .error .badAddress
  | some cells =>
    if i < cells.length then
      .ok { m with buffers := Function.update m.buffers buf (some (cells.set i sample)) }
    else .error .badAddress

def copySamples (m : CallerMemory Sample) (buf i : Nat) : List Sample → Except Fault (CallerMemory Sample)
  | [] => .ok m
  | sample :: rest =>
    match copySample m buf i sample with
    | .error fault => .error fault
    | .ok copied => copySamples copied buf (i + 1) rest

/-- A critical section of the `takeAll` entry of the registered service. The entry is declared
    with `struct sample_sequence **out` but holds `sampleQueue_takeAll`, which reads that argument
    as a `struct sample_sequence` by value: `view` is what the calling convention makes of it.
    The function copies through `view.buf` and never writes through the pointer it was given. -/
def takeAllEntrySection (view : SampleSequence) (rc : WaitCode) (min max : Nat) (m : CallerMemory Sample)
    (q : SampleQueue Sample) : Except Fault (Progress (TakeAllResult Sample × CallerMemory Sample)) :=
  match takeAllSection rc min max q with
  | .waits => .ok .waits
  | .returns result =>
    match copySamples m view.buf 0 result.removed with
    | .error fault => .error fault
    | .ok copied => .ok (.returns (result, copied))

/-- A whole call: each wake-up brings the code `pthread_cond_timedwait` returned and the queue the
    other clients left. The result has the queue at the deciding section; `none` is a call that
    still waits. -/
def takeAllEntry (view : SampleSequence) (min max : Nat) (m : CallerMemory Sample) :
    List (WaitCode × SampleQueue Sample) → WaitCode → SampleQueue Sample →
      Except Fault (Option (SampleQueue Sample × TakeAllResult Sample × CallerMemory Sample))
  | wakeups, rc, q =>
    match takeAllEntrySection view rc min max m q with
    | .error fault => .error fault
    | .ok (.returns (result, copied)) => .ok (some (q, result, copied))
    | .ok .waits =>
      match wakeups with
      | [] => .ok none
      | (code, queue) :: later => takeAllEntry view min max m later code queue

def CallerMemory.received (m : CallerMemory Sample) : Option (List Sample) :=
  match m.samples with
  | none => some []
  | some address =>
    match m.sequences address with
    | none => none
    | some seq =>
      if seq.len = 0 then some []
      else
        match m.buffers seq.buf with
        | none => none
        | some cells => if seq.len ≤ cells.length then some (cells.take seq.len) else none

def batchSize (max : Nat) (items : List Sample) : Nat := min max items.length

def HandedOver (max : Nat) (items : List Sample) (queue : SampleQueue Sample) (m : CallerMemory Sample) : Prop :=
  queue.queue = some (items.drop (batchSize max items)) ∧
    m.received = some (items.take (batchSize max items))

/-- Before the call the caller's variable is NULL with nothing to hand over, or it already points
    to a sequence of the right length whose array holds the samples or happens to be `view.buf`. -/
def AlreadyInPlace (view : SampleSequence) (m : CallerMemory Sample) (expected : List Sample) : Prop :=
  match m.samples with
  | none => expected = []
  | some address =>
    ∃ seq, m.sequences address = some seq ∧ seq.len = expected.length ∧
      (expected = [] ∨ seq.buf = view.buf ∨
        ∃ cells, m.buffers seq.buf = some cells ∧ cells.take expected.length = expected)

structure Copied (m : CallerMemory Sample) (buf i : Nat) (written : List Sample)
    (copied : CallerMemory Sample) : Prop where
  sequences : copied.sequences = m.sequences
  samples : copied.samples = m.samples
  others : ∀ other, other ≠ buf → copied.buffers other = m.buffers other
  array : written = [] ∧ copied.buffers buf = m.buffers buf ∨
    ∃ cells, m.buffers buf = some cells ∧ i + written.length ≤ cells.length ∧
      copied.buffers buf = some (cells.take i ++ written ++ cells.drop (i + written.length))

theorem copySample_copied {m copied : CallerMemory Sample} {buf i : Nat} {sample : Sample}
    (h : copySample m buf i sample = .ok copied) : Copied m buf i [sample] copied := by
  unfold copySample at h
  split at h
  · cases h
  · rename_i cells present
    split at h
    · rename_i bound
      cases h
      refine ⟨rfl, rfl, fun other different => Function.update_of_ne different _ _, .inr ⟨cells, present, bound, ?_⟩⟩
      simp [List.set_eq_take_append_cons_drop, bound]
    · cases h

theorem copySamples_copied {m copied : CallerMemory Sample} {buf i : Nat} {written : List Sample}
    (h : copySamples m buf i written = .ok copied) : Copied m buf i written copied := by
  induction written generalizing m i with
  | nil =>
    cases h
    exact ⟨rfl, rfl, fun _ _ => rfl, .inl ⟨rfl, rfl⟩⟩
  | cons sample rest ih =>
    simp only [copySamples] at h
    split at h
    · cases h
    · rename_i middle first
      have one := copySample_copied first
      have later := ih h
      refine ⟨later.sequences.trans one.sequences, later.samples.trans one.samples,
        fun other different => (later.others other different).trans (one.others other different), .inr ?_⟩
      rcases one.array with ⟨impossible, _⟩ | ⟨cells, present, bound, written⟩
      · cases impossible
      · refine ⟨cells, present, ?_⟩
        rw [List.length_singleton] at bound written
        have taken : (cells.take i ++ [sample]).length = i + 1 := by
          rw [List.length_append, List.length_take, List.length_singleton]
          omega
        rcases later.array with ⟨empty, kept⟩ | ⟨cells', present', bound', written'⟩
        · subst empty
          rw [kept, written]
          exact ⟨by simpa using bound, by simp⟩
        · rw [written] at present'
          cases present'
          have total : (cells.take i ++ [sample] ++ cells.drop (i + 1)).length = cells.length := by
            rw [List.length_append, taken, List.length_drop]
            omega
          rw [total] at bound'
          refine ⟨by rw [List.length_cons]; omega, ?_⟩
          rw [written', List.take_left' taken, List.drop_append, taken]
          have past : (cells.take i ++ [sample]).drop (i + 1 + rest.length) = [] := by
            apply List.drop_eq_nil_of_le
            omega
          have offset : i + 1 + (i + 1 + rest.length - (i + 1)) = i + (sample :: rest).length := by
            rw [List.length_cons]
            omega
          rw [past, List.nil_append, List.drop_drop, offset]
          simp

theorem received_null {m : CallerMemory Sample} (null : m.samples = none) : m.received = some [] := by
  simp [CallerMemory.received, null]

theorem received_iff {m : CallerMemory Sample} {address : Nat} {seq : SampleSequence}
    (pointer : m.samples = some address) (sequence : m.sequences address = some seq) (expected : List Sample) :
    m.received = some expected ↔ seq.len = expected.length ∧
      (expected = [] ∨ ∃ cells, m.buffers seq.buf = some cells ∧ cells.take expected.length = expected) := by
  simp only [CallerMemory.received, pointer, sequence]
  by_cases empty : seq.len = 0
  · simp only [empty, if_true, Option.some.injEq]
    constructor
    · rintro rfl
      exact ⟨rfl, .inl rfl⟩
    · rintro ⟨length, _⟩
      exact (List.eq_nil_of_length_eq_zero length.symm).symm
  · simp only [empty, if_false]
    cases array : m.buffers seq.buf with
    | none =>
      simp only [reduceCtorEq, false_and, exists_false, or_false, false_iff]
      rintro ⟨length, rfl⟩
      exact empty length
    | some cells =>
      dsimp only
      constructor
      · intro read
        split at read
        · rename_i bound
          have same : cells.take seq.len = expected := Option.some.inj read
          have length : seq.len = expected.length := by
            rw [← same, List.length_take]
            omega
          exact ⟨length, .inr ⟨cells, rfl, by rw [← length]; exact same⟩⟩
        · cases read
      · rintro ⟨length, nothing | ⟨cells', present, starts⟩⟩
        · subst nothing
          exact absurd length empty
        · cases present
          have bound : expected.length ≤ cells.length := by
            rw [← starts, List.length_take]
            omega
          rw [length, if_pos bound, starts]

theorem received_copied {m copied : CallerMemory Sample} {view : SampleSequence} {expected : List Sample}
    (copies : Copied m view.buf 0 expected copied) :
    copied.received = some expected ↔ AlreadyInPlace view m expected := by
  cases pointer : m.samples with
  | none =>
    rw [received_null (copies.samples.trans pointer)]
    simp [AlreadyInPlace, pointer, eq_comm]
  | some address =>
    simp only [AlreadyInPlace, pointer]
    cases sequence : m.sequences address with
    | none =>
      simp [CallerMemory.received, copies.samples, copies.sequences, pointer, sequence]
    | some seq =>
      rw [received_iff (copies.samples.trans pointer) (by rw [copies.sequences]; exact sequence)]
      simp only [Option.some.injEq, exists_eq_left']
      apply and_congr_right
      intro length
      by_cases same : seq.buf = view.buf
      · simp only [same, true_or, or_true, iff_true]
        rcases copies.array with ⟨nothing, _⟩ | ⟨cells, _, bound, written⟩
        · exact .inl nothing
        · exact .inr ⟨_, written, by simp⟩
      · simp only [same, false_or, copies.others seq.buf same]

theorem takeAllEntrySection_success {view : SampleSequence} {rc : WaitCode} {min max : Nat}
    {m copied : CallerMemory Sample} {q : SampleQueue Sample} {result : TakeAllResult Sample}
    (h : takeAllEntrySection view rc min max m q = .ok (.returns (result, copied)))
    (success : result.status = .success) :
    ∃ items, q.queue = some items ∧ result.queue.queue = some (items.drop max) ∧
      Copied m view.buf 0 (items.take max) copied := by
  unfold takeAllEntrySection at h
  cases live : q.queue with
  | none =>
    have failed : takeAllSection rc min max q = .returns ⟨q, .illegalState, []⟩ := by
      cases rc <;> simp [takeAllSection, takeAllWaits, live]
    rw [failed] at h
    cases h
    cases success
  | some items =>
    rcases takeAllSection_live rc min max q items live with waits | ⟨result', left, returns, moved, taken, _⟩
    · rw [waits] at h
      cases h
    · rw [returns] at h
      dsimp only at h
      split at h
      · cases h
      · rename_i copied' copies
        cases h
        have removed := taken success
        rw [removed] at copies
        refine ⟨items, rfl, ?_, copySamples_copied copies⟩
        have conserved : items = items.take max ++ left := by
          simpa [Transition.Exchange.Conserves, removed] using moved.conserved
        have rest : left = items.drop max := by
          apply (List.append_right_inj (items.take max)).mp
          rw [List.take_append_drop]
          exact conserved.symm
        rw [moved.queue, rest]

theorem takeAllEntry_decided {view : SampleSequence} {min max : Nat} {m copied : CallerMemory Sample}
    {wakeups : List (WaitCode × SampleQueue Sample)} {rc : WaitCode} {q decided : SampleQueue Sample}
    {result : TakeAllResult Sample}
    (h : takeAllEntry view min max m wakeups rc q = .ok (some (decided, result, copied))) :
    ∃ code, takeAllEntrySection view code min max m decided = .ok (.returns (result, copied)) := by
  induction wakeups generalizing rc q with
  | nil =>
    unfold takeAllEntry at h
    split at h
    · cases h
    · rename_i returned
      cases h
      exact ⟨rc, returned⟩
    · cases h
  | cons wakeup later ih =>
    unfold takeAllEntry at h
    split at h
    · cases h
    · rename_i returned
      cases h
      exact ⟨rc, returned⟩
    · exact ih h

theorem take_batchSize (max : Nat) (items : List Sample) :
    items.take (batchSize max items) = items.take max := List.take_eq_take_min.symm

theorem drop_batchSize (max : Nat) (items : List Sample) :
    items.drop (batchSize max items) = items.drop max := by
  simp [batchSize, List.drop_eq_drop_iff]

/-- A call through the service table that returns success has removed its samples, and the caller
    reads them exactly when they were in place before the call. -/
theorem takeAll_hands_over_iff (view : SampleSequence) (min max : Nat) (m copied : CallerMemory Sample)
    (wakeups : List (WaitCode × SampleQueue Sample)) (q decided : SampleQueue Sample)
    (result : TakeAllResult Sample)
    (call : takeAllEntry view min max m wakeups .zero q = .ok (some (decided, result, copied)))
    (success : result.status = .success) :
    ∃ items, decided.queue = some items ∧
      (HandedOver max items result.queue copied ↔
        AlreadyInPlace view m (items.take (batchSize max items))) := by
  obtain ⟨code, returned⟩ := takeAllEntry_decided call
  obtain ⟨items, live, rest, copies⟩ := takeAllEntrySection_success returned success
  refine ⟨items, live, ?_⟩
  rw [HandedOver, take_batchSize, drop_batchSize, ← received_copied copies]
  simp [rest]

def receiverMemory : CallerMemory Nat := ⟨fun _ => none, fun _ => some [0, 0], none⟩

def twoSamples : SampleQueue Nat := ⟨some [5, 6], 0, 2, 2, MAX_QUEUE_SIZE⟩

theorem takeAll_hands_over_iff_receiver :
    ∃ decided result copied,
      takeAllEntry ⟨0, 0, 3⟩ 1 2 receiverMemory [] .zero twoSamples = .ok (some (decided, result, copied)) ∧
      ∃ items, decided.queue = some items ∧
        (HandedOver 2 items result.queue copied ↔
          AlreadyInPlace ⟨0, 0, 3⟩ receiverMemory (items.take (batchSize 2 items))) :=
  ⟨_, _, _, rfl, takeAll_hands_over_iff ⟨0, 0, 3⟩ 1 2 receiverMemory _ [] twoSamples _ _ rfl rfl⟩

theorem takeAll_loses_samples :
    ∃ result copied,
      takeAllEntry ⟨0, 0, 3⟩ 1 2 receiverMemory [] .zero twoSamples =
        .ok (some (twoSamples, result, copied)) ∧
      result.status = .success ∧ result.removed = [5, 6] ∧ result.queue.queue = some [] ∧
      copied.received = some [] ∧ ¬ HandedOver 2 [5, 6] result.queue copied := by
  refine ⟨_, _, rfl, rfl, rfl, rfl, rfl, ?_⟩
  rintro ⟨_, read⟩
  cases read

end Celix.SampleQueue
