import Demonstrator.Collections.Recent
import Demonstrator.Java.Servlet.Statistics
import Demonstrator.Transition.Runs

namespace Servlet.History

open Collections Transition

variable {V : Type}

/-- A task of a request on the container: it has read the clock, has the value, or has stored it. -/
inductive Task (V : Type) where
  | measuring (time : Int64)
  | storing (time : Int64) (value : V)
  | naming
  deriving DecidableEq, Repr

def Task.time : Task V → Option Int64
  | .measuring time | .storing time _ => some time
  | .naming => none

/-- A container, the tasks of the requests on it, late ones among them, and the values in the order of their puts. -/
structure State (V : Type) where
  clock : Int64
  tasks : Nat → Option (Task V)
  container : StatsContainer V
  log : List (Int64 × V)

def State.initial (provider : StatsProvider) (clock : Int64) : State V :=
  ⟨clock, fun _ => none, ⟨provider, .createDefault, none⟩, []⟩

inductive Event (V : Type) where
  | tick (time : Int64)
  | call (task : Nat)
  | getValue (task : Nat) (value : V)
  -- with what is left of the map when another thread was inside of it at the same time
  | put (task : Nat) (raced : Option (TimestampMap V))
  | getName (task : Nat) (name : String)
  -- one of the two calls of the provider throws
  | fail (task : Nat)

/-- `m_stats.put`. The map is not synchronised, and a put that races with another one may leave anything. -/
def State.put (s : State V) (time : Int64) (value : V) (raced : Option (TimestampMap V)) : State V :=
  { s with
    container := { s.container with stats := raced.getD (s.container.stats.put time value) }
    log := s.log ++ [(time, value)] }

def State.write (s : State V) (task : Nat) (next : Option (Task V)) : State V :=
  { s with tasks := Function.update s.tasks task next }

def step (locale : Locale) (s : State V) : Event V → Option (State V)
  | .tick time => some { s with clock := time }
  | .call task =>
    match s.tasks task with
    | none => some (s.write task (some (.measuring s.clock)))
    | some _ => none
  | .getValue task value =>
    match s.tasks task with
    | some (.measuring time) => some (s.write task (some (.storing time value)))
    | _ => none
  | .put task raced =>
    match s.tasks task with
    | some (.storing time value) => some ((s.put time value raced).write task (some .naming))
    | _ => none
  | .getName task name =>
    match s.tasks task with
    | some .naming =>
      some { s.write task none with container := { s.container with name := some (Servlet.getName locale name) } }
    | _ => none
  | .fail task =>
    match s.tasks task with
    | some (.measuring _) | some .naming => some (s.write task none)
    | _ => none

/-- No other thread is inside of the map during a put. -/
def Event.Alone : Event V → Prop
  | .put _ raced => raced = none
  | _ => True

/-- The clock does not go back, and a task is started only when no other is left. -/
def InOrder (s : State V) : Event V → Prop
  | .tick time => s.clock ≤ time
  | .call _ => ∀ task, s.tasks task = none
  | _ => True

theorem request_alone (locale : Locale) (s : State V) {task : Nat} (idle : s.tasks task = none) (value : V) :
    ∃ t, exec (step locale) s
        [.call task, .getValue task value, .put task none, .getName task s.container.provider.name] = some t ∧
      t.container = Answer.call locale ⟨s.container, s.clock, value⟩ ∧ t.tasks = s.tasks := by
  refine ⟨{ s with
    tasks := Function.update s.tasks task none
    container := Answer.call locale ⟨s.container, s.clock, value⟩
    log := s.log ++ [(s.clock, value)] }, ?_, rfl, ?_⟩
  · simp only [exec, step, idle, Option.bind_some, State.write, State.put, Function.update_self, Function.update_idem]
    rfl
  funext other
  by_cases same : other = task
  · simp [same, idle]
  · simp [same]

section Runs

variable {locale : Locale} {s t : State V} {event : Event V}

theorem step_stats (alone : event.Alone) (h : step locale s event = some t) :
    (t.container.stats = s.container.stats ∧ t.log = s.log) ∨
      ∃ task time value, event = .put task none ∧ s.tasks task = some (.storing time value) ∧
        t.container.stats = s.container.stats.put time value ∧ t.log = s.log ++ [(time, value)] := by
  cases event with
  | tick time =>
    cases h
    exact .inl ⟨rfl, rfl⟩
  | call task =>
    simp only [step] at h
    split at h <;> cases h
    exact .inl ⟨rfl, rfl⟩
  | getValue task value =>
    simp only [step] at h
    split at h <;> cases h
    exact .inl ⟨rfl, rfl⟩
  | put task raced =>
    cases alone
    simp only [step] at h
    split at h <;> cases h
    rename_i time value found
    exact .inr ⟨task, time, value, rfl, found, rfl, rfl⟩
  | getName task name =>
    simp only [step] at h
    split at h <;> cases h
    exact .inl ⟨rfl, rfl⟩
  | fail task =>
    simp only [step] at h
    split at h <;> cases h <;> exact .inl ⟨rfl, rfl⟩

def limit : Nat := 24

theorem removeEldestEntry_iff (size : Nat) :
    TimestampMap.removeEldestEntry TimestampMap.DEFAULT_MAX_SIZE size = true ↔ limit < size := by
  have value : TimestampMap.DEFAULT_MAX_SIZE.toInt = 25 := by decide
  rw [TimestampMap.removeEldestEntry, decide_eq_true_eq, value, limit]
  omega

structure Holds (s : State V) : Prop where
  maxSize : s.container.stats.maxSize = TimestampMap.DEFAULT_MAX_SIZE
  size : s.container.stats.map.size ≤ limit
  current : ∀ entry ∈ s.container.stats.map.entries, s.log.reverse.lookup entry.1 = some entry.2

theorem holds_initial (provider : StatsProvider) (clock : Int64) : Holds (State.initial provider clock : State V) where
  maxSize := rfl
  size := Nat.zero_le _
  current := by
    intro entry member
    cases member

theorem holds_step (holds : Holds s) (alone : event.Alone) (h : step locale s event = some t) : Holds t := by
  rcases step_stats alone h with ⟨stats, log⟩ | ⟨task, time, value, rfl, found, stats, log⟩
  · exact ⟨stats ▸ holds.maxSize, stats ▸ holds.size, stats ▸ log ▸ holds.current⟩
  · have put : t.container.stats.map = s.container.stats.map.putEvicting
        (TimestampMap.removeEldestEntry TimestampMap.DEFAULT_MAX_SIZE) time value := by
      rw [stats, ← holds.maxSize]
      rfl
    refine ⟨stats ▸ holds.maxSize, ?_, ?_⟩
    · rw [put]
      by_cases full : s.container.stats.map.size = limit
      · rw [LinkedMap.size_putEvicting_removed, full]
        rw [removeEldestEntry_iff]
        omega
      · have room := holds.size
        rw [LinkedMap.putEvicting_kept]
        · by_cases present : time ∈ s.container.stats.map.keys
          · rw [LinkedMap.size_put_present value present]
            exact room
          · rw [LinkedMap.size_put_absent value present]
            omega
        · rw [← Bool.not_eq_true, removeEldestEntry_iff]
          omega
    · rw [put, log]
      exact LinkedMap.lookup_putEvicting value holds.current

def State.times (s : State V) : List Int64 := (latest s.log).map Prod.fst

structure Ordered (s : State V) : Prop where
  single : ∀ one two, s.tasks one ≠ none → s.tasks two ≠ none → one = two
  pending : ∀ task time, (s.tasks task).bind Task.time = some time →
    time ≤ s.clock ∧ ∀ before ∈ s.times, before ≤ time
  past : ∀ before ∈ s.times, before ≤ s.clock
  increasing : s.times.Pairwise (· < ·)
  entries : s.container.stats.map.entries = recent limit (latest s.log)

theorem ordered_initial (provider : StatsProvider) (clock : Int64) :
    Ordered (State.initial provider clock : State V) where
  single := by
    intro one _ busy
    exact absurd rfl busy
  pending := by
    intro _ _ found
    cases found
  past := by
    intro before member
    cases member
  increasing := List.Pairwise.nil
  entries := rfl

theorem last_of_le {history : List (Int64 × V)} {time : Int64} (increasing : (history.map Prod.fst).Pairwise (· < ·))
    (reached : ∀ before ∈ history.map Prod.fst, before ≤ time) (member : time ∈ history.map Prod.fst) :
    history.getLast?.map Prod.fst = some time := by
  induction history using List.reverseRecOn with
  | nil => cases member
  | append_singleton before last _ =>
    rw [List.map_append] at increasing reached member
    have top := reached last.1 (by simp)
    rcases List.mem_append.mp member with earlier | here
    · have less : time < last.1 := (List.pairwise_append.mp increasing).2.2 time earlier last.1 (by simp)
      rw [Int64.lt_iff_toInt_lt] at less
      rw [Int64.le_iff_toInt_le] at top
      omega
    · simpa using (List.mem_singleton.mp here).symm

section Tasks

variable {tasks : Nat → Option (Task V)} {task : Nat} {phase : Option (Task V)}

theorem single_update (single : ∀ one two, tasks one ≠ none → tasks two ≠ none → one = two)
    (busy : tasks task ≠ none) :
    ∀ one two, Function.update tasks task phase one ≠ none → Function.update tasks task phase two ≠ none → one = two := by
  have before : ∀ other, Function.update tasks task phase other ≠ none → tasks other ≠ none := by
    intro other left
    by_cases same : other = task
    · rw [same]
      exact busy
    · rwa [Function.update_of_ne same] at left
  intro one two first second
  exact single one two (before one first) (before two second)

theorem time_update (single : ∀ one two, tasks one ≠ none → tasks two ≠ none → one = two) (busy : tasks task ≠ none)
    {other : Nat} {time : Int64} (found : (Function.update tasks task phase other).bind Task.time = some time) :
    phase.bind Task.time = some time := by
  by_cases same : other = task
  · rwa [same, Function.update_self] at found
  · rw [Function.update_of_ne same] at found
    have present : tasks other ≠ none := by
      intro absent
      rw [absent] at found
      cases found
    exact absurd (single other task present busy) same

end Tasks

theorem ordered_call {task : Nat} (ordered : Ordered s) (free : ∀ task, s.tasks task = none) :
    Ordered (s.write task (some (.measuring s.clock))) := by
  have only : ∀ other, Function.update s.tasks task (some (.measuring s.clock)) other ≠ none → other = task := by
    intro other busy
    by_contra different
    rw [Function.update_of_ne different] at busy
    exact busy (free other)
  refine ⟨fun one two first second => ?_, fun other time found => ?_, ordered.past, ordered.increasing, ordered.entries⟩
  · rw [only one first, only two second]
  · change (Function.update s.tasks task (some (.measuring s.clock)) other).bind Task.time = _ at found
    have same : other = task := by
      apply only
      intro absent
      rw [absent] at found
      cases found
    rw [same, Function.update_self] at found
    cases found
    exact ⟨Int64.le_refl _, ordered.past⟩

theorem ordered_write {task : Nat} {container : StatsContainer V} {next : Option (Task V)} (ordered : Ordered s)
    (busy : s.tasks task ≠ none) (same : container.stats = s.container.stats)
    (time : ∀ time, next.bind Task.time = some time → (s.tasks task).bind Task.time = some time) :
    Ordered { s.write task next with container := container } := by
  refine ⟨single_update ordered.single busy, fun other read later => ?_, ordered.past, ordered.increasing, ?_⟩
  · exact ordered.pending task read (time read (time_update ordered.single busy later))
  · change container.stats.map.entries = _
    rw [same]
    exact ordered.entries

theorem ordered_put {task : Nat} {time : Int64} {value : V} (holds : Holds s) (ordered : Ordered s)
    (found : s.tasks task = some (.storing time value)) :
    Ordered ((s.put time value none).write task (some .naming)) := by
  have busy : s.tasks task ≠ none := by rw [found]; simp
  obtain ⟨now, above⟩ := ordered.pending task time (by rw [found]; rfl)
  have inOrder : time ∈ (latest s.log).map Prod.fst → (latest s.log).getLast?.map Prod.fst = some time :=
    last_of_le ordered.increasing above
  have distinct : ((latest s.log).map Prod.fst).Nodup := by
    apply ordered.increasing.imp
    rintro before _ less rfl
    exact Int64.lt_irrefl less
  have grown : latest (s.log ++ [(time, value)]) = record (latest s.log) time value := latest_snoc s.log (time, value)
  refine ⟨single_update ordered.single busy, fun other time' later => ?_, fun before member => ?_, ?_, ?_⟩
  · cases time_update ordered.single busy later
  · change before ∈ (latest (s.log ++ [(time, value)])).map Prod.fst at member
    rw [grown] at member
    rcases mem_record member with earlier | rfl
    · exact ordered.past before earlier
    · exact now
  · change ((latest (s.log ++ [(time, value)])).map Prod.fst).Pairwise (· < ·)
    rw [grown]
    exact record_pairwise value ordered.increasing
      (fun before member different => Int64.lt_of_le_of_ne (above before member) different) inOrder
  · change (s.container.stats.map.putEvicting
      (TimestampMap.removeEldestEntry s.container.stats.maxSize) time value).entries =
        recent limit (latest (s.log ++ [(time, value)]))
    rw [grown, holds.maxSize]
    exact LinkedMap.entries_putEvicting (by decide) removeEldestEntry_iff distinct value inOrder ordered.entries

theorem ordered_step (holds : Holds s) (ordered : Ordered s) (alone : event.Alone) (allowed : InOrder s event)
    (h : step locale s event = some t) : Ordered t := by
  cases event with
  | tick time =>
    cases h
    have later : ∀ before, before ≤ s.clock → before ≤ time := fun before le => Int64.le_trans le allowed
    refine ⟨ordered.single, fun task read found => ?_, fun before member => later before (ordered.past before member),
      ordered.increasing, ordered.entries⟩
    obtain ⟨now, above⟩ := ordered.pending task read found
    exact ⟨later read now, above⟩
  | call task =>
    simp only [step] at h
    split at h <;> cases h
    exact ordered_call ordered allowed
  | getValue task value =>
    simp only [step] at h
    split at h <;> cases h
    rename_i time found
    refine ordered_write ordered (by rw [found]; simp) rfl fun read later => ?_
    rw [found]
    exact later
  | put task raced =>
    cases alone
    simp only [step] at h
    split at h <;> cases h
    rename_i time value found
    exact ordered_put holds ordered found
  | getName task name =>
    simp only [step] at h
    split at h <;> cases h
    rename_i found
    exact ordered_write ordered (by rw [found]; simp) rfl fun _ none => by cases none
  | fail task =>
    simp only [step] at h
    split at h <;> cases h
    · rename_i found
      exact ordered_write ordered (by rw [found]; simp) rfl fun _ none => by cases none
    · rename_i found
      exact ordered_write ordered (by rw [found]; simp) rfl fun _ none => by cases none

end Runs

section Reports

def points (written : JsonObject V) : List (Int64 × V) := written.timestamps.zip written.values

variable (provider : StatsProvider) (stats : TimestampMap V) (name : String)

theorem written_timestamps : (writeAsJSON provider stats name).timestamps.Pairwise (· < ·) := by
  have sorted : (stats.map.keys.mergeSort fun a b => decide (a ≤ b)).Pairwise fun a b => decide (a ≤ b) = true := by
    apply List.pairwise_mergeSort
    · intro a b c first second
      rw [decide_eq_true_eq] at first second ⊢
      exact Int64.le_trans first second
    · intro a b
      rw [Bool.or_eq_true, decide_eq_true_eq, decide_eq_true_eq]
      exact Int64.le_total a b
  have distinct : (stats.map.keys.mergeSort fun a b => decide (a ≤ b)).Nodup :=
    (List.mergeSort_perm _ _).nodup_iff.mpr stats.map.keys_nodup
  apply (sorted.and distinct).imp
  intro a b both
  exact Int64.lt_of_le_of_ne (decide_eq_true_eq.mp both.1) both.2

theorem written_lengths :
    (writeAsJSON provider stats name).timestamps.length = (writeAsJSON provider stats name).values.length := by
  have lengths := congrArg List.length (writeAsJSON_values provider stats name)
  rw [List.length_map, List.length_map] at lengths
  exact lengths.symm

theorem timestamps_length : (writeAsJSON provider stats name).timestamps.length = stats.map.size := by
  rw [← LinkedMap.keys_length]
  exact (List.mergeSort_perm _ _).length_eq

theorem points_perm : (points (writeAsJSON provider stats name)).Perm stats.map.entries := by
  have found : ∀ timestamp ∈ stats.map.keys.mergeSort fun a b => decide (a ≤ b), (stats.map.get timestamp).isSome :=
    fun timestamp member => stats.map.get_isSome_iff.mpr (List.mem_mergeSort.mp member)
  have listed : points (writeAsJSON provider stats name) = _ := zip_filterMap found
  rw [listed, ← LinkedMap.filterMap_keys]
  exact (List.mergeSort_perm _ _).filterMap _

theorem points_of_increasing (increasing : stats.map.keys.Pairwise (· < ·)) :
    points (writeAsJSON provider stats name) = stats.map.entries := by
  have sorted : stats.map.keys.mergeSort (fun a b => decide (a ≤ b)) = stats.map.keys := by
    apply List.mergeSort_of_pairwise
    apply increasing.imp
    intro a b less
    exact decide_eq_true (Int64.le_of_lt less)
  change (List.zip (stats.map.keys.mergeSort _) (List.filterMap stats.map.get (stats.map.keys.mergeSort _))) = _
  rw [sorted, zip_filterMap fun timestamp member => stats.map.get_isSome_iff.mpr member, LinkedMap.filterMap_keys]

end Reports

/-- After every run of the tasks of any requests, also of ones that overlap and of a clock that is set back, a provider
    is reported with increasing timestamps, each with the value stored last at it, also when the value is read only after
    further puts. If the clock goes on and the tasks come one after the other, these are the most recent timestamps of
    all. The map itself is not synchronised: that no two threads are inside of it at once is an assumption. -/
theorem history_reported (locale : Locale) (provider : StatsProvider) (clock : Int64) (events : List (Event V))
    (alone : ∀ event ∈ events, event.Alone) (s : State V)
    (run : exec (step locale) (State.initial provider clock) events = some s) (name : String) :
    let written := writeAsJSON provider s.container.stats name
    written.timestamps.Pairwise (· < ·) ∧ written.timestamps.length = written.values.length ∧
      written.timestamps.length ≤ limit ∧
      (∀ point ∈ points written, s.log.reverse.lookup point.1 = some point.2) ∧
      (∀ later t, (∀ event ∈ later, event.Alone) → exec (step locale) s later = some t → ∀ timestamp value,
        t.container.stats.map.get timestamp = some value → t.log.reverse.lookup timestamp = some value) ∧
      (Meets (step locale) InOrder (State.initial provider clock) events →
        points written = recent limit (latest s.log)) := by
  have calm : Meets (step locale) (fun _ => Event.Alone) (State.initial provider clock) events := meets_of_forall _ alone
  have holds : Holds s := meets_invariant (fun _ _ _ => holds_step) (holds_initial provider clock) calm run
  refine ⟨written_timestamps _ _ _, written_lengths _ _ _, ?_, fun point member => ?_, ?_, fun meets => ?_⟩
  · rw [timestamps_length]
    exact holds.size
  · exact holds.current point ((points_perm _ _ _).mem_iff.mp member)
  · intro later t calmLater further timestamp value found
    have still : Holds t := meets_invariant (fun _ _ _ => holds_step) holds (meets_of_forall _ calmLater) further
    exact still.current (timestamp, value) (LinkedMap.mem_of_get found)
  · have kept : ∀ (state : State V) event next, Holds state ∧ Ordered state → event.Alone ∧ InOrder state event →
        step locale state event = some next → Holds next ∧ Ordered next :=
      fun _ _ _ before allowed taken =>
        ⟨holds_step before.1 allowed.1 taken, ordered_step before.1 before.2 allowed.1 allowed.2 taken⟩
    have both := meets_invariant kept ⟨holds_initial provider clock, ordered_initial provider clock⟩ (calm.and meets) run
    have entries := both.2.entries
    rw [points_of_increasing, entries]
    rw [LinkedMap.keys, entries, recent, List.map_drop]
    exact both.2.increasing.sublist (List.drop_sublist _ _)

def requests : List (Event Nat) :=
  [.call 0, .getValue 0 7, .put 0 none, .getName 0 "Queue", .call 1, .getValue 1 8, .put 1 none, .fail 1, .tick 200,
    .call 2, .fail 2, .tick 300, .call 3, .getValue 3 9, .put 3 none, .getName 3 "Queue"]

theorem requests_reported : ∃ s,
    exec (step asciiLocale) (State.initial ⟨"Queue", "utilization", "%"⟩ 100) requests = some s ∧
    s.log = [(100, 7), (100, 8), (300, 9)] ∧
    points (writeAsJSON ⟨"Queue", "utilization", "%"⟩ s.container.stats "queue") = [(100, 8), (300, 9)] := by
  have ran : (exec (step asciiLocale) (State.initial ⟨"Queue", "utilization", "%"⟩ 100) requests).map State.log =
      some [(100, 7), (100, 8), (300, 9)] := by decide +kernel
  obtain ⟨s, run, log⟩ := Option.map_eq_some_iff.mp ran
  have alone : ∀ event ∈ requests, event.Alone := by simp [requests, Event.Alone]
  have meets : Meets (step asciiLocale) InOrder (State.initial ⟨"Queue", "utilization", "%"⟩ 100) requests := by
    simp [Meets, requests, step, InOrder, State.initial, State.write, State.put]
  have reported := (history_reported asciiLocale _ 100 requests alone s run "queue").2.2.2.2.2 meets
  rw [log] at reported
  exact ⟨s, run, log, reported.trans (by decide)⟩

end Servlet.History
