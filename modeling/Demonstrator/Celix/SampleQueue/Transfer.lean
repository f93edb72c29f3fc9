import Demonstrator.Celix.SampleQueue.Clients

namespace Celix.SampleQueue

open Transition

variable {Sample : Type}

structure Transfer (before : SampleQueue Sample) (items : List Sample) (exchange : Exchange Sample)
    (after : SampleQueue Sample) (left : List Sample) : Prop where
  queue : after.queue = some left
  conserved : exchange.Conserves items left
  bounded : items.length ≤ MAX_QUEUE_SIZE → left.length ≤ MAX_QUEUE_SIZE
  putCnt : after.putCnt = before.putCnt + exchange.accepted.length
  takeCnt : after.takeCnt = before.takeCnt + exchange.removed.length
  currentQueueSize : after.currentQueueSize =
    before.currentQueueSize + exchange.accepted.length - exchange.removed.length
  maxQueueSize : after.maxQueueSize = before.maxQueueSize

theorem Transfer.refl {q : SampleQueue Sample} {items : List Sample} (live : q.queue = some items) :
    Transfer q items ⟨[], []⟩ q items where
  queue := live
  conserved := by simp [Exchange.Conserves]
  bounded := id
  putCnt := by simp
  takeCnt := by simp
  currentQueueSize := by simp
  maxQueueSize := rfl

theorem hasRoom_iff (items : List Sample) : HasRoom items ↔ items.length < MAX_QUEUE_SIZE := by
  simp [HasRoom, MAX_QUEUE_SIZE]

theorem put_transfer (calloc add : Bool) (sample : Sample) (q : SampleQueue Sample) (items : List Sample)
    (live : q.queue = some items) :
    ∃ left, Transfer q items (Report.put sample (put calloc add sample false q).2.1
      (put calloc add sample false q).2.2).exchange (put calloc add sample false q).1 left := by
  by_cases room : HasRoom items
  · cases calloc <;> cases add
    case true.true =>
      rw [hasRoom_iff] at room
      refine ⟨items ++ [sample], ?_⟩
      constructor
      case bounded =>
        intro _
        rw [List.length_append, List.length_singleton]
        omega
      all_goals simp [put, live, hasRoom_iff, room, Report.exchange, Exchange.Conserves]
    all_goals exact ⟨items, by simpa [put, live, room, Report.exchange] using Transfer.refl live⟩
  · exact ⟨items, by simpa [put, live, room, Report.exchange] using Transfer.refl live⟩

/-- The samples the loop appends go to the list, to the log and into both counters, in batch
    order. With no failing `arrayList_add` they are the start of the batch: the loop only stops. -/
structure PutAllLoop.Adds (calloc add : Nat → Bool) (i : Nat) (samples : List Sample)
    (loop : PutAllLoop Sample) (added : List Sample) : Prop where
  items : (putAllLoop calloc add i samples loop).items = loop.items ++ added
  appended : (putAllLoop calloc add i samples loop).appended = loop.appended ++ added
  samplesAdded : (putAllLoop calloc add i samples loop).samplesAdded = loop.samplesAdded + added.length
  currentQueueSize : (putAllLoop calloc add i samples loop).currentQueueSize =
    loop.currentQueueSize + added.length
  sublist : added.Sublist samples
  start : (∀ j, i ≤ j → j < i + samples.length → add j = true) → added <+: samples
  bounded : loop.items.length ≤ MAX_QUEUE_SIZE → loop.items.length + added.length ≤ MAX_QUEUE_SIZE

theorem putAllLoop_stops (calloc add : Nat → Bool) (i : Nat) (samples : List Sample)
    (loop : PutAllLoop Sample) (status : Status)
    (stops : putAllLoop calloc add i samples loop = { loop with status := status }) :
    PutAllLoop.Adds calloc add i samples loop [] := by
  constructor <;> simp [stops]

def PutAllLoop.append (loop : PutAllLoop Sample) (sample : Sample) : PutAllLoop Sample :=
  { loop with
    items := loop.items ++ [sample]
    currentQueueSize := loop.currentQueueSize + 1
    samplesAdded := loop.samplesAdded + 1
    appended := loop.appended ++ [sample] }

theorem PutAllLoop.Adds.appends {calloc add : Nat → Bool} {i : Nat} {sample : Sample} {rest added : List Sample}
    {loop : PutAllLoop Sample} (room : HasRoom loop.items)
    (unfolded : putAllLoop calloc add i (sample :: rest) loop =
      putAllLoop calloc add (i + 1) rest (loop.append sample))
    (adds : PutAllLoop.Adds calloc add (i + 1) rest (loop.append sample) added) :
    PutAllLoop.Adds calloc add i (sample :: rest) loop (sample :: added) where
  items := by
    rw [unfolded, adds.items]
    simp [PutAllLoop.append]
  appended := by
    rw [unfolded, adds.appended]
    simp [PutAllLoop.append]
  samplesAdded := by
    rw [unfolded, adds.samplesAdded]
    simp only [PutAllLoop.append, List.length_cons]
    omega
  currentQueueSize := by
    rw [unfolded, adds.currentQueueSize]
    simp only [PutAllLoop.append, List.length_cons]
    push_cast
    omega
  sublist := adds.sublist.cons_cons sample
  start := by
    intro every
    rw [List.prefix_cons_inj]
    apply adds.start
    intro j low high
    exact every j (by omega) (by simp only [List.length_cons]; omega)
  bounded := by
    intro _
    rw [hasRoom_iff] at room
    have bound := adds.bounded (by simp [PutAllLoop.append]; omega)
    simp only [PutAllLoop.append, List.length_append, List.length_cons, List.length_nil] at bound ⊢
    omega

theorem PutAllLoop.Adds.drops {calloc add : Nat → Bool} {i : Nat} {sample : Sample} {rest added : List Sample}
    {loop : PutAllLoop Sample} (fails : add i ≠ true)
    (unfolded : putAllLoop calloc add i (sample :: rest) loop = putAllLoop calloc add (i + 1) rest loop)
    (adds : PutAllLoop.Adds calloc add (i + 1) rest loop added) :
    PutAllLoop.Adds calloc add i (sample :: rest) loop added where
  items := by rw [unfolded, adds.items]
  appended := by rw [unfolded, adds.appended]
  samplesAdded := by rw [unfolded, adds.samplesAdded]
  currentQueueSize := by rw [unfolded, adds.currentQueueSize]
  sublist := adds.sublist.cons sample
  start := by
    intro every
    exact absurd (every i (Nat.le_refl i) (by simp)) fails
  bounded := adds.bounded

theorem putAllLoop_adds (calloc add : Nat → Bool) (i : Nat) (samples : List Sample)
    (loop : PutAllLoop Sample) : ∃ added, PutAllLoop.Adds calloc add i samples loop added := by
  induction samples generalizing i loop with
  | nil => exact ⟨[], putAllLoop_stops calloc add i [] loop loop.status rfl⟩
  | cons sample rest ih =>
    by_cases room : HasRoom loop.items
    · by_cases allocated : calloc i = true
      · by_cases appends : add i = true
        · obtain ⟨added, adds⟩ := ih (i + 1) (loop.append sample)
          have unfolded : putAllLoop calloc add i (sample :: rest) loop = _ :=
            if_pos room |>.trans (if_pos allocated) |>.trans (if_pos appends)
          exact ⟨sample :: added, adds.appends room unfolded⟩
        · obtain ⟨added, adds⟩ := ih (i + 1) loop
          have unfolded : putAllLoop calloc add i (sample :: rest) loop = _ :=
            if_pos room |>.trans (if_pos allocated) |>.trans (if_neg appends)
          exact ⟨added, adds.drops appends unfolded⟩
      · exact ⟨[], putAllLoop_stops _ _ _ _ _ .enomem (if_pos room |>.trans (if_neg allocated))⟩
    · exact ⟨[], putAllLoop_stops _ _ _ _ _ loop.status (if_neg room)⟩

theorem putAll_transfer (calloc add : Nat → Bool) (samples : List Sample) (q : SampleQueue Sample)
    (items : List Sample) (live : q.queue = some items) :
    ∃ left, Transfer q items ⟨(putAll calloc add samples 0 q).appended, []⟩
      (putAll calloc add samples 0 q).queue left := by
  obtain ⟨added, adds⟩ := putAllLoop_adds calloc add 0 samples ⟨items, q.currentQueueSize, 0, [], .success⟩
  refine ⟨items ++ added, ?_⟩
  constructor
  case bounded => simpa using adds.bounded
  all_goals simp [putAll, live, adds.items, adds.appended, adds.samplesAdded, adds.currentQueueSize,
    Exchange.Conserves]

theorem takeAllLoop_eq (left : Nat) (items : List Sample) :
    takeAllLoop left items = (items.take left, items.drop left) := by
  induction left generalizing items with
  | zero => rfl
  | succ left ih =>
    cases items with
    | nil => rfl
    | cons sample rest => simp [takeAllLoop, ih]

inductive TakeCase (rc : WaitCode) (out : Option Sample) (q : SampleQueue Sample) :
    List Sample → Except Fault (Progress (TakeResult Sample)) → Prop where
  | waits : TakeCase rc out q [] (.ok .waits)
  | empty : TakeCase rc out q [] (.ok (.returns ⟨q, none, .success, []⟩))
  | removed (sample : Sample) (rest : List Sample) (woken : rc = .zero) (queue : SampleQueue Sample)
      (moved : Transfer q (sample :: rest) ⟨[], [sample]⟩ queue rest) :
      TakeCase rc out q (sample :: rest) (.ok (.returns ⟨queue, some sample, .success, [sample]⟩))
  | failed (sample : Sample) (rest : List Sample) (expired : rc ≠ .zero) :
      TakeCase rc out q (sample :: rest) (.ok (.returns ⟨q, out, .illegalState, []⟩))

theorem takeSection_case (rc : WaitCode) (out : Option Sample) {q : SampleQueue Sample} {items : List Sample}
    (live : q.queue = some items) : TakeCase rc out q items (takeSection rc out q) := by
  cases items with
  | nil =>
    by_cases waits : takeWaits rc q = true
    · have blocked : takeSection rc out q = .ok .waits := by simp [takeSection, waits]
      rw [blocked]
      exact .waits
    · have returned : takeSection rc out q = .ok (.returns ⟨q, none, .success, []⟩) := by
        cases rc <;> simp [takeSection, waits, live, arrayListSize]
      rw [returned]
      exact .empty
  | cons sample rest =>
    by_cases woken : rc = .zero
    · subst woken
      have returned : takeSection .zero out q = .ok (.returns
          ⟨{ q with queue := some rest, takeCnt := q.takeCnt + 1, currentQueueSize := q.currentQueueSize - 1 },
            some sample, .success, [sample]⟩) := by
        simp [takeSection, takeWaits, live]
      rw [returned]
      refine .removed sample rest rfl _ ?_
      constructor
      case bounded =>
        intro bound
        rw [List.length_cons] at bound
        omega
      all_goals simp [Exchange.Conserves]
    · have returned : takeSection rc out q = .ok (.returns ⟨q, out, .illegalState, []⟩) := by
        cases rc <;> simp_all [takeSection, takeWaits, arrayListSize]
      rw [returned]
      exact .failed sample rest woken

theorem takeSection_live (rc : WaitCode) (out : Option Sample) (q : SampleQueue Sample)
    (items : List Sample) (live : q.queue = some items) :
    takeSection rc out q = .ok .waits ∨
    ∃ result left, takeSection rc out q = .ok (.returns result) ∧
      Transfer q items ⟨[], result.removed⟩ result.queue left ∧
      (result.status = .success → result.removed = result.out.toList) ∧
      (result.status ≠ .success → result.removed = []) := by
  have deciding := takeSection_case rc out live
  generalize takeSection rc out q = reached at deciding
  cases deciding with
  | waits => exact .inl rfl
  | empty => exact .inr ⟨_, [], rfl, Transfer.refl live, by simp, by simp⟩
  | removed sample rest woken queue moved => exact .inr ⟨_, rest, rfl, moved, by simp, by simp⟩
  | failed sample rest expired => exact .inr ⟨_, sample :: rest, rfl, Transfer.refl live, by simp, by simp⟩

inductive TakeAllCase (rc : WaitCode) (min max : Nat) (q : SampleQueue Sample) (items : List Sample) :
    Progress (TakeAllResult Sample) → Prop where
  | waits (short : items.length < min) : TakeAllCase rc min max q items .waits
  | removed (woken : rc = .zero) (queue : SampleQueue Sample)
      (moved : Transfer q items ⟨[], items.take max⟩ queue (items.drop max)) :
      TakeAllCase rc min max q items (.returns ⟨queue, .success, items.take max⟩)
  | failed (expired : rc ≠ .zero) : TakeAllCase rc min max q items (.returns ⟨q, .illegalState, []⟩)

theorem takeAllSection_case (rc : WaitCode) (min max : Nat) {q : SampleQueue Sample} {items : List Sample}
    (live : q.queue = some items) : TakeAllCase rc min max q items (takeAllSection rc min max q) := by
  by_cases waits : takeAllWaits rc min q = true
  · have blocked : takeAllSection rc min max q = .waits := by simp [takeAllSection, waits]
    simp only [takeAllWaits, live, Bool.and_eq_true, decide_eq_true_eq] at waits
    rw [blocked]
    exact .waits waits.1
  · by_cases woken : rc = .zero
    · subst woken
      have returned : takeAllSection .zero min max q = .returns
          ⟨{ q with
              queue := some (items.drop max)
              takeCnt := q.takeCnt + (items.take max).length
              currentQueueSize := q.currentQueueSize - (items.take max).length }, .success, items.take max⟩ := by
        simp [takeAllSection, waits, live, takeAllLoop_eq]
      rw [returned]
      refine .removed rfl _ ?_
      constructor
      case bounded =>
        intro bound
        rw [List.length_drop]
        omega
      all_goals simp [Exchange.Conserves]
    · have returned : takeAllSection rc min max q = .returns ⟨q, .illegalState, []⟩ := by
        cases rc <;> simp_all [takeAllSection]
      rw [returned]
      exact .failed woken

theorem takeAllSection_live (rc : WaitCode) (min max : Nat) (q : SampleQueue Sample)
    (items : List Sample) (live : q.queue = some items) :
    takeAllSection rc min max q = .waits ∨
    ∃ result left, takeAllSection rc min max q = .returns result ∧
      Transfer q items ⟨[], result.removed⟩ result.queue left ∧
      (result.status = .success → result.removed = items.take max) ∧
      (result.status ≠ .success → result.removed = []) := by
  have deciding := takeAllSection_case rc min max live
  generalize takeAllSection rc min max q = reached at deciding
  cases deciding with
  | waits short => exact .inl rfl
  | removed woken queue moved => exact .inr ⟨_, items.drop max, rfl, moved, by simp, by simp⟩
  | failed expired => exact .inr ⟨_, items, rfl, Transfer.refl live, by simp, by simp⟩

theorem printStatistics_live (q : SampleQueue Sample) (items : List Sample) (live : q.queue = some items) :
    printStatistics q =
      .ok ({ q with putCnt := 0, takeCnt := 0 }, ⟨q.putCnt, q.takeCnt, items.length⟩) := by
  simp [printStatistics, arrayListSize, live]

end Celix.SampleQueue
