import Demonstrator.Java.Servlet.DoGet
import Demonstrator.Java.Servlet.Registration
import Mathlib.Data.Finset.Card

namespace Servlet.Registration

open Coordinator (ServiceType)
open DoGet (Number Surroundings doGet doGet_body)
open Json (Generator Recorder)
open Transition

variable {Provider : Type}

inductive Point where
  | naming
  | counting
  | storing
  deriving DecidableEq, Repr

def Callback.serviceRef : Callback Provider → ServiceReference
  | .addStatsProvider serviceRef _ | .removeStatsProvider serviceRef _ => serviceRef

def Callback.change : Callback Provider → Int32
  | .addStatsProvider _ _ => 1
  | .removeStatsProvider _ _ => -1

def State.name (s : State Provider) : Callback Provider → State Provider
  | .addStatsProvider serviceRef provider => if serviceRef.isAggregator then { s with aggregator := some provider } else s
  | .removeStatsProvider serviceRef _ => if serviceRef.isAggregator then { s with aggregator := none } else s

def State.put (s : State Provider) : Callback Provider → State Provider
  | .addStatsProvider serviceRef provider =>
    if (s.providerStats serviceRef).isSome then s
    else { s with providerStats := Function.update s.providerStats serviceRef (some provider) }
  | .removeStatsProvider serviceRef _ =>
    { s with providerStats := Function.update s.providerStats serviceRef none }

/-- The servlet with the callbacks that are under way, at most one for a reference. -/
structure Running (Provider : Type) where
  fields : State Provider
  underway : ServiceReference → Option (Point × Callback Provider)

def Running.initial : Running Provider := ⟨.initial, fun _ => none⟩

inductive Move (Provider : Type) where
  | call (callback : Callback Provider)
  | proceed (serviceRef : ServiceReference)

def move (s : Running Provider) : Move Provider → Option (Running Provider)
  | .call callback =>
    if (s.underway callback.serviceRef).isNone ∧ (step s.fields callback).isSome then
      some { s with underway := Function.update s.underway callback.serviceRef (some (.naming, callback)) }
    else none
  | .proceed serviceRef =>
    match s.underway serviceRef with
    | none => none
    | some (.naming, callback) =>
      some ⟨s.fields.name callback, Function.update s.underway serviceRef (some (.counting, callback))⟩
    | some (.counting, callback) =>
      some ⟨s.fields.count serviceRef callback.change, Function.update s.underway serviceRef (some (.storing, callback))⟩
    | some (.storing, callback) => some ⟨s.fields.put callback, Function.update s.underway serviceRef none⟩

def word : ServiceType → String
  | .processor => "processor"
  | .producer => "producer"

def ServiceReference.counts (serviceRef : ServiceReference) (type : ServiceType) : Bool :=
  equalsIgnoreCase (word type) serviceRef.typeText

def State.counter (s : State Provider) : ServiceType → Int32
  | .processor => s.processorCount
  | .producer => s.producerCount

/-- Whether the reference is in its counter: from the second statement of its `addStatsProvider` on. -/
def Running.present (s : Running Provider) (serviceRef : ServiceReference) : Bool :=
  match s.underway serviceRef with
  | none => (s.fields.providerStats serviceRef).isSome
  | some (point, .addStatsProvider _ _) => point == .storing
  | some (point, .removeStatsProvider _ _) => point != .storing

/-- A callback that no other one interrupts is the callback as a whole. -/
theorem callback_alone (s t : State Provider) (callback : Callback Provider) (h : step s callback = some t)
    (underway : ServiceReference → Option (Point × Callback Provider)) (free : underway callback.serviceRef = none) :
    exec move ⟨s, underway⟩ [.call callback, .proceed callback.serviceRef, .proceed callback.serviceRef,
      .proceed callback.serviceRef] = some ⟨t, underway⟩ := by
  have allowed : (step s callback).isSome = true := by rw [h]; rfl
  have whole : ((s.name callback).count callback.serviceRef callback.change).put callback = t := by
    cases callback with
    | addStatsProvider serviceRef provider =>
      simp only [step] at h
      split at h <;> cases h
      rfl
    | removeStatsProvider serviceRef provider =>
      simp only [step] at h
      split at h <;> cases h
      rfl
  simp [exec, move, free, allowed, whole]

theorem counts_processor_producer {serviceRef : ServiceReference} (processor : serviceRef.counts .processor = true) :
    serviceRef.counts .producer = false := by
  simp only [ServiceReference.counts, word, equalsIgnoreCase, Bool.and_eq_true, beq_iff_eq] at processor ⊢
  rw [← processor.1]
  rfl

theorem counter_count (s : State Provider) (serviceRef : ServiceReference) (change : Int32) (type : ServiceType) :
    (s.count serviceRef change).counter type =
      if serviceRef.counts type then s.counter type + change else s.counter type := by
  by_cases processor : serviceRef.counts .processor = true
  · have other := counts_processor_producer processor
    have taken : s.count serviceRef change = { s with processorCount := s.processorCount + change } := if_pos processor
    rw [taken]
    cases type with
    | processor => rw [if_pos processor]; rfl
    | producer => rw [other]; rfl
  · by_cases producer : serviceRef.counts .producer = true
    · have taken : s.count serviceRef change = { s with producerCount := s.producerCount + change } :=
        (if_neg processor).trans (if_pos producer)
      rw [taken]
      cases type with
      | processor => rw [if_neg processor]; rfl
      | producer => rw [if_pos producer]; rfl
    · have taken : s.count serviceRef change = s := (if_neg processor).trans (if_neg producer)
      rw [taken]
      cases type with
      | processor => rw [if_neg processor]
      | producer => rw [if_neg producer]

def Running.Tracks (s : Running Provider) (type : ServiceType) (counted : Finset ServiceReference) : Prop :=
  s.fields.counter type = Int32.ofNat counted.card ∧
    ∀ serviceRef, serviceRef ∈ counted ↔ serviceRef.counts type = true ∧ s.present serviceRef = true

structure Tracked (s : Running Provider) : Prop where
  allowed : ∀ serviceRef point callback, s.underway serviceRef = some (point, callback) →
    callback.serviceRef = serviceRef ∧ (step s.fields callback).isSome = true
  counted : ∀ type, ∃ counted, s.Tracks type counted

theorem step_isSome (s : State Provider) (callback : Callback Provider) : (step s callback).isSome = true ↔
    (s.providerStats callback.serviceRef).isSome = match callback with
      | .addStatsProvider _ _ => false
      | .removeStatsProvider _ _ => true := by
  cases callback with
  | addStatsProvider serviceRef provider =>
    by_cases present : (s.providerStats serviceRef).isSome = true <;> simp [step, Callback.serviceRef, present]
  | removeStatsProvider serviceRef provider =>
    by_cases present : (s.providerStats serviceRef).isSome = true <;> simp [step, Callback.serviceRef, present]

theorem present_update {s : Running Provider} {fields : State Provider} {changed : ServiceReference}
    {now : Option (Point × Callback Provider)} (stats : ∀ other, other ≠ changed →
      fields.providerStats other = s.fields.providerStats other) {other : ServiceReference} (different : other ≠ changed) :
    (Running.mk fields (Function.update s.underway changed now)).present other = s.present other := by
  simp only [Running.present, Function.update_of_ne different, stats other different]

theorem Running.Tracks.congr {s t : Running Provider} {type : ServiceType} {counted : Finset ServiceReference}
    (tracks : s.Tracks type counted) (counter : t.fields.counter type = s.fields.counter type)
    (present : ∀ serviceRef, t.present serviceRef = s.present serviceRef) : t.Tracks type counted :=
  ⟨counter.trans tracks.1, fun serviceRef => present serviceRef ▸ tracks.2 serviceRef⟩

theorem ofNat_card_insert {counted : Finset ServiceReference} {serviceRef : ServiceReference}
    (absent : serviceRef ∉ counted) :
    Int32.ofNat (insert serviceRef counted).card = Int32.ofNat counted.card + 1 := by
  rw [Finset.card_insert_of_notMem absent, Int32.ofNat_add]
  rfl

theorem ofNat_card_erase {counted : Finset ServiceReference} {serviceRef : ServiceReference}
    (member : serviceRef ∈ counted) :
    Int32.ofNat (counted.erase serviceRef).card = Int32.ofNat counted.card + -1 := by
  have grown := ofNat_card_insert (Finset.notMem_erase serviceRef counted)
  rw [Finset.insert_erase member] at grown
  rw [grown, Int32.add_assoc]
  exact (Int32.add_zero _).symm

section Moves

variable {s : Running Provider} {serviceRef : ServiceReference} {callback : Callback Provider} {type : ServiceType}
  {counted : Finset ServiceReference}

def Running.count (s : Running Provider) (serviceRef : ServiceReference) (callback : Callback Provider) :
    Running Provider :=
  ⟨s.fields.count serviceRef callback.change, Function.update s.underway serviceRef (some (.storing, callback))⟩

theorem present_count_of_ne {other : ServiceReference} (different : other ≠ serviceRef) :
    (s.count serviceRef callback).present other = s.present other :=
  present_update (fun other _ => congrFun (count_providerStats _) other) different

theorem tracks_uncounted (tracks : s.Tracks type counted) (elsewhere : serviceRef.counts type = false) :
    (s.count serviceRef callback).Tracks type counted := by
  refine ⟨?_, fun other => ?_⟩
  · change (s.fields.count serviceRef callback.change).counter type = _
    rw [counter_count, if_neg (by rw [elsewhere]; decide)]
    exact tracks.1
  · rw [tracks.2 other]
    by_cases same : other = serviceRef
    · rw [same, elsewhere]
      simp
    · rw [present_count_of_ne same]

theorem tracks_counted (tracks : s.Tracks type counted) (here : s.underway serviceRef = some (.counting, callback))
    (counts : serviceRef.counts type = true) :
    (s.count serviceRef callback).Tracks type (match callback with
      | .addStatsProvider _ _ => insert serviceRef counted
      | .removeStatsProvider _ _ => counted.erase serviceRef) := by
  have counter : (s.count serviceRef callback).fields.counter type = s.fields.counter type + callback.change := by
    change (s.fields.count serviceRef callback.change).counter type = _
    rw [counter_count, if_pos counts]
  have before := tracks.2 serviceRef
  rw [counts, Running.present, here] at before
  cases callback with
  | addStatsProvider _ provider =>
    have absent : serviceRef ∉ counted := by simpa using before
    refine ⟨?_, fun other => ?_⟩
    · rw [counter, tracks.1, ofNat_card_insert absent]
      rfl
    · rw [Finset.mem_insert, tracks.2 other]
      by_cases same : other = serviceRef
      · simp [same, counts, Running.present, Running.count]
      · simp [same, present_count_of_ne same]
  | removeStatsProvider _ provider =>
    have member : serviceRef ∈ counted := by simpa using before
    refine ⟨?_, fun other => ?_⟩
    · rw [counter, tracks.1, ofNat_card_erase member]
      rfl
    · rw [Finset.mem_erase, tracks.2 other]
      by_cases same : other = serviceRef
      · simp [same, Running.present, Running.count]
      · simp [same, present_count_of_ne same]

theorem counter_name (fields : State Provider) (callback : Callback Provider) (type : ServiceType) :
    (fields.name callback).counter type = fields.counter type := by
  cases callback <;> cases type <;> simp only [State.name] <;> split <;> rfl

theorem providerStats_name (fields : State Provider) (callback : Callback Provider) :
    (fields.name callback).providerStats = fields.providerStats := by
  cases callback <;> simp only [State.name] <;> split <;> rfl

theorem counter_put (fields : State Provider) (callback : Callback Provider) (type : ServiceType) :
    (fields.put callback).counter type = fields.counter type := by
  cases callback with
  | addStatsProvider _ _ => cases type <;> simp only [State.put] <;> split <;> rfl
  | removeStatsProvider _ _ => cases type <;> rfl

theorem providerStats_put (fields : State Provider) (callback : Callback Provider)
    (allowed : (step fields callback).isSome = true) :
    (fields.put callback).providerStats = Function.update fields.providerStats callback.serviceRef
      (match callback with
        | .addStatsProvider _ provider => some provider
        | .removeStatsProvider _ _ => none) := by
  cases callback with
  | addStatsProvider serviceRef provider =>
    have absent := (step_isSome _ _).mp allowed
    simp only [Callback.serviceRef] at absent
    simp [State.put, absent, Callback.serviceRef]
  | removeStatsProvider serviceRef provider => rfl

theorem step_isSome_congr {fields : State Provider}
    (stats : fields.providerStats callback.serviceRef = s.fields.providerStats callback.serviceRef) :
    (step fields callback).isSome = true ↔ (step s.fields callback).isSome = true := by
  rw [step_isSome, step_isSome, stats]

theorem allowed_update {fields : State Provider} {now : Option (Point × Callback Provider)} (tracked : Tracked s)
    (stats : ∀ other, other ≠ serviceRef → fields.providerStats other = s.fields.providerStats other)
    (fine : ∀ point callback, now = some (point, callback) →
      callback.serviceRef = serviceRef ∧ (step fields callback).isSome = true) :
    ∀ other point callback, Function.update s.underway serviceRef now other = some (point, callback) →
      callback.serviceRef = other ∧ (step fields callback).isSome = true := by
  intro other point callback found
  by_cases same : other = serviceRef
  · rw [same] at found ⊢
    rw [Function.update_self] at found
    exact fine point callback found
  · rw [Function.update_of_ne same] at found
    obtain ⟨own, allowed⟩ := tracked.allowed other point callback found
    refine ⟨own, (step_isSome_congr ?_).mpr allowed⟩
    rw [own]
    exact stats other same

theorem tracked_call (tracked : Tracked s) (free : s.underway callback.serviceRef = none)
    (allowed : (step s.fields callback).isSome = true) :
    Tracked { s with underway := Function.update s.underway callback.serviceRef (some (.naming, callback)) } := by
  have same : ∀ other, Running.present { s with
      underway := Function.update s.underway callback.serviceRef (some (.naming, callback)) } other = s.present other := by
    intro other
    by_cases here : other = callback.serviceRef
    · rw [here, Running.present, Running.present, free]
      simp only [Function.update_self]
      rw [(step_isSome _ _).mp allowed]
      cases callback <;> rfl
    · exact present_update (fun _ _ => rfl) here
  refine ⟨allowed_update tracked (fun _ _ => rfl) ?_, fun type => ?_⟩
  · rintro _ _ ⟨⟩
    exact ⟨rfl, allowed⟩
  · obtain ⟨counted, tracks⟩ := tracked.counted type
    exact ⟨counted, tracks.congr rfl same⟩

theorem tracked_name (tracked : Tracked s) (here : s.underway serviceRef = some (.naming, callback)) :
    Tracked ⟨s.fields.name callback, Function.update s.underway serviceRef (some (.counting, callback))⟩ := by
  have stats := providerStats_name s.fields callback
  have same : ∀ other, Running.present ⟨s.fields.name callback,
      Function.update s.underway serviceRef (some (.counting, callback))⟩ other = s.present other := by
    intro other
    by_cases at' : other = serviceRef
    · rw [at', Running.present, Running.present, here]
      simp only [Function.update_self]
      cases callback <;> rfl
    · exact present_update (fun other _ => congrFun stats other) at'
  obtain ⟨own, allowed⟩ := tracked.allowed serviceRef .naming callback here
  refine ⟨allowed_update tracked (fun other _ => congrFun stats other) ?_, fun type => ?_⟩
  · rintro _ _ ⟨⟩
    exact ⟨own, (step_isSome_congr (congrFun stats _)).mpr allowed⟩
  · obtain ⟨counted, tracks⟩ := tracked.counted type
    exact ⟨counted, tracks.congr (counter_name _ _ _) same⟩

theorem tracked_count (tracked : Tracked s) (here : s.underway serviceRef = some (.counting, callback)) :
    Tracked (s.count serviceRef callback) := by
  have stats : (s.fields.count serviceRef callback.change).providerStats = s.fields.providerStats :=
    count_providerStats _
  obtain ⟨own, allowed⟩ := tracked.allowed serviceRef .counting callback here
  refine ⟨allowed_update tracked (fun other _ => congrFun stats other) ?_, fun type => ?_⟩
  · rintro _ _ ⟨⟩
    exact ⟨own, (step_isSome_congr (congrFun stats _)).mpr allowed⟩
  · obtain ⟨counted, tracks⟩ := tracked.counted type
    by_cases counts : serviceRef.counts type = true
    · exact ⟨_, tracks_counted tracks here counts⟩
    · exact ⟨counted, tracks_uncounted tracks (Bool.not_eq_true _ ▸ counts)⟩

theorem tracked_put (tracked : Tracked s) (here : s.underway serviceRef = some (.storing, callback)) :
    Tracked ⟨s.fields.put callback, Function.update s.underway serviceRef none⟩ := by
  obtain ⟨own, allowed⟩ := tracked.allowed serviceRef .storing callback here
  have stats := providerStats_put s.fields callback allowed
  rw [own] at stats
  have others : ∀ other, other ≠ serviceRef →
      (s.fields.put callback).providerStats other = s.fields.providerStats other := by
    intro other different
    rw [stats, Function.update_of_ne different]
  have same : ∀ other, Running.present ⟨s.fields.put callback,
      Function.update s.underway serviceRef none⟩ other = s.present other := by
    intro other
    by_cases at' : other = serviceRef
    · rw [at', Running.present, Running.present, here]
      simp only [Function.update_self]
      rw [stats, Function.update_self]
      cases callback <;> rfl
    · exact present_update others at'
  refine ⟨allowed_update tracked others ?_, fun type => ?_⟩
  · rintro _ _ ⟨⟩
  · obtain ⟨counted, tracks⟩ := tracked.counted type
    exact ⟨counted, tracks.congr (counter_put _ _ _) same⟩

end Moves

theorem tracked_move (s : Running Provider) (taken : Move Provider) (t : Running Provider) (tracked : Tracked s)
    (h : move s taken = some t) : Tracked t := by
  cases taken with
  | call callback =>
    simp only [move] at h
    split at h <;> cases h
    rename_i allowed
    exact tracked_call tracked (Option.isNone_iff_eq_none.mp allowed.1) allowed.2
  | proceed serviceRef =>
    simp only [move] at h
    split at h
    · cases h
    · cases h
      exact tracked_name tracked ‹_›
    · cases h
      exact tracked_count tracked ‹_›
    · cases h
      exact tracked_put tracked ‹_›

theorem tracked_initial : Tracked (Running.initial : Running Provider) where
  allowed serviceRef point callback found := by cases found
  counted type := by
    refine ⟨∅, ?_, fun serviceRef => ?_⟩
    · cases type <;> rfl
    · simp [Running.present, Running.initial, State.initial]

theorem toString_ofNat {count : Nat} (few : count < 2 ^ 31) : toString (Int32.ofNat count) = toString count := by
  have value : (Int32.ofNat count).toInt = count := Int32.toInt_ofNat_of_lt few
  change toString (Int32.ofNat count).toInt = _
  rw [value]
  rfl

theorem systemStats_body_counts {V G : Type} {g : Generator DoGet.Exit G (Number V)} (documented : g.Documented)
    (web : Surroundings V) (queryString : Option String) {processors producers : Int32}
    {processorCount producerCount : Nat} (processorReplicas : web.getReplicaCount .processor = .ok processors)
    (producerReplicas : web.getReplicaCount .producer = .ok producers)
    (processor : web.processorCount = Int32.ofNat processorCount) (fewProcessors : processorCount < 2 ^ 31)
    (producer : web.producerCount = Int32.ofNat producerCount) (fewProducers : producerCount < 2 ^ 31) :
    (doGet g web (some "/systemStats") queryString).body = Json.Value.tokens (.object
      [("productionRate", g.number (.int web.productionRate)),
        ("processors", .text (toString processorCount ++ " / " ++ toString processors)),
        ("producers", .text (toString producerCount ++ " / " ++ toString producers))]) := by
  rw [doGet_body documented]
  have document : web.document g.number (some "/systemStats") queryString = some (.object
      [("productionRate", g.number (.int web.productionRate)),
        ("processors", .text (toString web.processorCount ++ " / " ++ toString processors)),
        ("producers", .text (toString web.producerCount ++ " / " ++ toString producers))]) := by
    simp [Surroundings.document, processorReplicas, producerReplicas, Except.toOption]
  rw [document, processor, producer, toString_ofNat fewProcessors, toString_ofNat fewProducers]
  rfl

/-- GET `/systemStats` reads the counter of the processors first. -/
def readIn (s t : Running Provider) : ServiceType → Running Provider
  | .processor => s
  | .producer => t

/-- In every interleaving of the callbacks, GET `/systemStats` counts the providers of each type that are registered when
    it reads their counter, each one once, but for those whose own callback is under way then. -/
theorem system_stats_count_providers {V G : Type} {g : Generator DoGet.Exit G (Number V)} (documented : g.Documented)
    (before between : List (Move Provider)) (s t : Running Provider) (run : exec move Running.initial before = some s)
    (later : exec move s between = some t) :
    ∃ counted : ServiceType → Finset ServiceReference,
      (∀ type serviceRef, serviceRef ∈ counted type → serviceRef.counts type = true) ∧
      (∀ type serviceRef, serviceRef.counts type = true → (readIn s t type).underway serviceRef = none →
        (serviceRef ∈ counted type ↔ ((readIn s t type).fields.providerStats serviceRef).isSome = true)) ∧
      ∀ (web : Surroundings V) (queryString : Option String) (processors producers : Int32),
        web.processorCount = s.fields.processorCount → web.producerCount = t.fields.producerCount →
        web.getReplicaCount .processor = .ok processors → web.getReplicaCount .producer = .ok producers →
        (∀ type, (counted type).card < 2 ^ 31) →
        (doGet g web (some "/systemStats") queryString).body = Json.Value.tokens (.object
          [("productionRate", g.number (.int web.productionRate)),
            ("processors", .text (toString (counted .processor).card ++ " / " ++ toString processors)),
            ("producers", .text (toString (counted .producer).card ++ " / " ++ toString producers))]) := by
  have first : Tracked s := exec_invariant tracked_move tracked_initial run
  have second : Tracked t := exec_invariant tracked_move first later
  have tracked : ∀ type, Tracked (readIn s t type) := by
    intro type
    cases type with
    | processor => exact first
    | producer => exact second
  choose counted tracks using fun type => (tracked type).counted type
  refine ⟨counted, ?_, ?_, ?_⟩
  · intro type serviceRef member
    exact (((tracks type).2 serviceRef).mp member).1
  · intro type serviceRef counts free
    rw [(tracks type).2 serviceRef, Running.present, free]
    simp [counts]
  · intro web queryString processors producers processor producer processorReplicas producerReplicas few
    exact systemStats_body_counts documented web queryString processorReplicas producerReplicas
      (processor.trans (tracks .processor).1) (few .processor) (producer.trans (tracks .producer).1) (few .producer)

def leaving : ServiceReference := ⟨0, none, some (.string "processor")⟩

def staying : ServiceReference := ⟨1, none, some (.string "Processor")⟩

def arriving : ServiceReference := ⟨2, none, some (.string "producer")⟩

def overlapping : List (Move Nat) :=
  [.call (.addStatsProvider leaving 10), .call (.addStatsProvider staying 11), .proceed staying, .proceed leaving,
    .proceed leaving, .proceed staying, .proceed leaving, .call (.addStatsProvider arriving 12), .proceed arriving,
    .call (.removeStatsProvider leaving 10), .proceed staying, .proceed leaving, .proceed leaving]

def meanwhile : List (Move Nat) := [.proceed arriving, .proceed leaving]

def polled : Surroundings Nat where
  results := .ok none
  replies container := .of container
  getReplicaCount
    | .processor => .ok 3
    | .producer => .ok 2
  productionRate := 5
  processorCount := 1
  producerCount := 1
  aggregator := ⟨.error .nullPointerException, .error .nullPointerException, .error .nullPointerException,
    .error .nullPointerException⟩
  clusterInfo := .error .nullPointerException

/-- The producer is counted between the two reads. -/
theorem overlapping_counted : ∃ s t, exec move Running.initial overlapping = some s ∧ exec move s meanwhile = some t ∧
    (s.fields.processorCount, s.fields.producerCount, t.fields.producerCount) = (1, 0, 1) ∧
    ∃ counted : ServiceType → Finset ServiceReference,
      staying ∈ counted .processor ∧
      (doGet DoGet.recorder polled (some "/systemStats") none).body = Json.Value.tokens (.object
        [("productionRate", .number (.int 5)),
          ("processors", .text (toString (counted .processor).card ++ " / " ++ "3")),
          ("producers", .text (toString (counted .producer).card ++ " / " ++ "2"))]) ∧
      (doGet DoGet.recorder polled (some "/systemStats") none).body =
        [.startObject, .fieldName "productionRate", .number (.int 5), .fieldName "processors", .text "1 / 3",
          .fieldName "producers", .text "1 / 2", .endObject] := by
  obtain ⟨s, t, run, later, counters, free, first, second, providers, left⟩ : ∃ s t,
      exec move Running.initial overlapping = some s ∧ exec move s meanwhile = some t ∧
      (s.fields.processorCount, s.fields.producerCount, t.fields.producerCount) = (1, 0, 1) ∧
      s.underway staying = none ∧
      (∀ serviceRef, serviceRef ≠ leaving → serviceRef ≠ arriving → s.underway serviceRef = none) ∧
      (∀ serviceRef, serviceRef ≠ arriving → t.underway serviceRef = none) ∧
      s.fields.providerStats = Function.update (Function.update (fun _ => none) leaving (some 10)) staying (some 11) ∧
      t.fields.providerStats = Function.update s.fields.providerStats leaving none := by
    refine ⟨_, _, rfl, rfl, by decide, rfl, fun serviceRef first second => ?_, fun serviceRef second => ?_, rfl, rfl⟩
    · by_cases same : serviceRef = staying
      · rw [same]
        rfl
      · simp [Callback.serviceRef, Running.initial, first, second, same]
    · by_cases same : serviceRef = staying
      · rw [same]
        rfl
      · by_cases other : serviceRef = leaving
        · rw [other]
          rfl
        · simp [Callback.serviceRef, Running.initial, second, same, other]
  obtain ⟨processors, producers⟩ := Prod.mk.inj counters
  obtain ⟨counted, typed, registered, response⟩ :=
    system_stats_count_providers (V := Nat) (g := DoGet.recorder) (Recorder.documented _ _) overlapping meanwhile s t
      run later
  have few : ∀ type, (counted type).card < 2 ^ 31 := by
    have inside : ∀ type, counted type ⊆ {leaving, staying, arriving} := by
      intro type serviceRef member
      by_contra outside
      simp only [Finset.mem_insert, Finset.mem_singleton, not_or] at outside
      obtain ⟨notLeaving, notStaying, notArriving⟩ := outside
      have counts := typed type serviceRef member
      cases type with
      | processor =>
        have present := (registered .processor serviceRef counts (first _ notLeaving notArriving)).mp member
        simp [readIn, providers, notLeaving, notStaying] at present
      | producer =>
        have present := (registered .producer serviceRef counts (second _ notArriving)).mp member
        simp [readIn, left, providers, notLeaving, notStaying] at present
    intro type
    exact (Finset.card_le_card (inside type)).trans_lt (Finset.card_le_three.trans_lt (by decide))
  refine ⟨s, t, run, later, counters, counted, ?_, ?_, by decide +kernel⟩
  · exact (registered .processor staying (by decide) free).mpr (by simp [readIn, providers])
  · exact response polled none 3 2 processors.symm (Prod.mk.inj producers).2.symm rfl rfl few

end Servlet.Registration
