import Demonstrator.Collections.SortedSet
import Demonstrator.Java.Servlet.Names
import Demonstrator.Java.Servlet.TimestampMap
import Demonstrator.Text.CodeUnits

namespace Servlet

open Collections Text

variable {V : Type}

/-- The answers of a provider to `getName`, `getType` and `getMeasurementUnit`. -/
structure StatsProvider where
  name : String
  type : String
  unit : String
  deriving DecidableEq, Repr

structure StatsContainer (V : Type) where
  provider : StatsProvider
  stats : TimestampMap V
  name : Option String

def StatsContainer.compareTo (c other : StatsContainer V) : Ordering :=
  match c.name, other.name with
  | none, _ => .gt
  | some _, none => .lt
  | some name, some otherName => compare (codeUnits name.toList) (codeUnits otherName.toList)

structure JsonObject (V : Type) where
  name : String
  displayName : String
  type : String
  unit : String
  timestamps : List Int64
  values : List V
  deriving DecidableEq, Repr

def writeAsJSON (provider : StatsProvider) (stats : TimestampMap V) (name : String) : JsonObject V :=
  let timestamps := stats.map.keys.mergeSort fun a b => decide (a ≤ b)
  { name
    displayName := provider.name
    type := provider.type
    unit := provider.unit
    timestamps
    values := timestamps.filterMap stats.map.get }

theorem writeAsJSON_values (provider : StatsProvider) (stats : TimestampMap V) (name : String) :
    (writeAsJSON provider stats name).values.map some =
      (writeAsJSON provider stats name).timestamps.map stats.map.get := by
  simp only [writeAsJSON]
  rw [List.map_filterMap_some_eq_filter_map_isSome, List.filter_eq_self]
  intro value member
  obtain ⟨timestamp, listed, rfl⟩ := List.mem_map.mp member
  exact stats.map.get_isSome_iff.mpr (List.mem_mergeSort.mp listed)

def StatsContainer.wanted (names : List String) (c : StatsContainer V) : Bool := c.name.any (Servlet.wanted names)

/-- The sorted set of the loop over the results; a result is absent when its task has failed or was too late. -/
def collect (names : List String) (set : List (StatsContainer V)) : Option (StatsContainer V) → List (StatsContainer V)
  | none => set
  | some c => if c.wanted names then SortedSet.add StatsContainer.compareTo c set else set

/-- GET `/statistics`, from the results of `invokeAll`, which are absent when the request was interrupted. -/
def statistics (queryString : Option String) (results : Option (List (Option (StatsContainer V)))) :
    Option (List (JsonObject V)) :=
  results.map fun results =>
    (results.foldl (collect (wantedNames queryString)) []).filterMap fun c =>
      c.name.map (writeAsJSON c.provider c.stats)

/-- A registered container, and the time and the value that its task finds. -/
structure Answer (V : Type) where
  container : StatsContainer V
  time : Int64
  value : V

def Answer.name (locale : Locale) (answer : Answer V) : String := getName locale answer.container.provider.name

def Answer.call (locale : Locale) (answer : Answer V) : StatsContainer V :=
  { answer.container with
    stats := answer.container.stats.put answer.time answer.value
    name := some (answer.name locale) }

def Answer.object (locale : Locale) (answer : Answer V) : JsonObject V :=
  writeAsJSON answer.container.provider (answer.call locale).stats (answer.name locale)

def answers (locale : Locale) (registered : List (Answer V)) : Option (List (Option (StatsContainer V))) :=
  some (registered.map fun answer => some (answer.call locale))

theorem collect_results (names : List String) (results : List (Option (StatsContainer V))) :
    results.foldl (collect names) [] =
      SortedSet.addAll StatsContainer.compareTo ((results.filterMap id).filter (StatsContainer.wanted names)) := by
  induction results using List.reverseRecOn with
  | nil => rfl
  | append_singleton results result ih =>
    rw [List.foldl_append, ih, List.filterMap_append, List.filter_append]
    cases result with
    | none => simp [collect]
    | some c =>
      by_cases accepted : c.wanted names = true
      · simp [collect, accepted, SortedSet.addAll_snoc]
      · simp [collect, accepted]

def StatsContainer.key (c : StatsContainer V) : List Nat := codeUnits (c.name.getD "").toList

def StatsContainer.object (c : StatsContainer V) : JsonObject V := writeAsJSON c.provider c.stats (c.name.getD "")

section Endpoint

variable {locale : Locale} {registered : List (Answer V)}

theorem call_compared (locale : Locale) (registered : List (Answer V)) :
    SortedSet.ComparedBy StatsContainer.compareTo compare StatsContainer.key
      (registered.map fun answer => answer.call locale) := by
  intro a left b right
  obtain ⟨first, _, rfl⟩ := List.mem_map.mp left
  obtain ⟨second, _, rfl⟩ := List.mem_map.mp right
  rfl

theorem filterMap_object {set : List (StatsContainer V)} (named : ∀ c ∈ set, c.name.isSome) :
    (set.filterMap fun c => c.name.map (writeAsJSON c.provider c.stats)) = set.map StatsContainer.object := by
  rw [← List.filterMap_eq_map]
  apply List.filterMap_congr
  intro c member
  obtain ⟨name, found⟩ := Option.isSome_iff_exists.mp (named c member)
  simp [StatsContainer.object, found]

theorem named_of_mem {names : List String} {c : StatsContainer V}
    (member : c ∈ SortedSet.addAll StatsContainer.compareTo
      ((registered.map fun answer => answer.call locale).filter (StatsContainer.wanted names))) :
    ∃ answer ∈ registered, answer.call locale = c :=
  List.mem_map.mp (List.mem_of_mem_filter (SortedSet.mem_of_mem_addAll member))

theorem statistics_answers (locale : Locale) (registered : List (Answer V)) (queryString : Option String) :
    statistics queryString (answers locale registered) =
      some ((SortedSet.addAll StatsContainer.compareTo
        ((registered.map fun answer => answer.call locale).filter
          (StatsContainer.wanted (wantedNames queryString)))).map StatsContainer.object) := by
  have collected := collect_results (wantedNames queryString) (registered.map fun answer => some (answer.call locale))
  have present : (registered.map fun answer => some (answer.call locale)).filterMap id =
      registered.map fun answer => answer.call locale := by
    rw [List.filterMap_map]
    exact congrFun List.filterMap_eq_map _
  rw [present] at collected
  rw [statistics, answers, Option.map_some, ← filterMap_object]
  · exact congrArg some (congrArg _ collected)
  · intro c member
    obtain ⟨answer, _, rfl⟩ := named_of_mem member
    rfl

theorem keys_nodup_iff (locale : Locale) (registered : List (Answer V)) :
    ((registered.map fun answer => answer.call locale).map StatsContainer.key).Nodup ↔
      (registered.map (Answer.name locale)).Nodup := by
  have keys : (registered.map fun answer => answer.call locale).map StatsContainer.key =
      (registered.map (Answer.name locale)).map fun name => codeUnits name.toList := by
    rw [List.map_map, List.map_map]
    rfl
  have injective : Function.Injective fun name : String => codeUnits name.toList :=
    fun _ _ same => String.toList_injective (codeUnits_injective same)
  rw [keys, List.nodup_map_iff injective]

end Endpoint

def ReportsEvery (locale : Locale) (registered : List (Answer V)) : Prop :=
  ∃ written, statistics none (answers locale registered) = some written ∧
    written.Perm (registered.map (Answer.object locale)) ∧
    written.Pairwise fun a b => compare (codeUnits a.name.toList) (codeUnits b.name.toList) ≠ .gt

theorem reports_every_iff (locale : Locale) (registered : List (Answer V)) :
    ReportsEvery locale registered ↔ (registered.map (Answer.name locale)).Nodup := by
  have all : (registered.map fun answer => answer.call locale).filter (StatsContainer.wanted (wantedNames none)) =
      registered.map fun answer => answer.call locale := by
    apply List.filter_eq_self.mpr
    intro c member
    obtain ⟨answer, _, rfl⟩ := List.mem_map.mp member
    rfl
  have output := statistics_answers locale registered none
  rw [all] at output
  have ordered := SortedSet.ordered_addAll (call_compared locale registered)
  have objects : (registered.map fun answer => answer.call locale).map StatsContainer.object =
      registered.map (Answer.object locale) := List.map_map
  rw [← keys_nodup_iff, ← SortedSet.addAll_perm_iff (call_compared locale registered)]
  constructor
  · rintro ⟨written, found, complete, _⟩
    cases output.symm.trans found
    rw [SortedSet.addAll_perm_iff (call_compared locale registered)]
    have named := complete.map fun object => codeUnits object.name.toList
    rw [← objects, List.map_map, List.map_map] at named
    exact named.nodup_iff.mp ordered.nodup
  · intro complete
    refine ⟨_, output, objects ▸ complete.map StatsContainer.object, ?_⟩
    rw [List.pairwise_map]
    apply List.Pairwise.imp _ ordered
    intro a b less more
    cases less.symm.trans more

def replicas : List (Answer Nat) :=
  [⟨⟨⟨"Processor 1", "processor", "items"⟩, .createDefault, none⟩, 100, 7⟩,
    ⟨⟨⟨"Processor-1", "processor", "items"⟩, .createDefault, none⟩, 101, 8⟩]

theorem reports_merged :
    ¬ ReportsEvery asciiLocale replicas ∧
      statistics none (answers asciiLocale replicas) =
        some [⟨"processor-1", "Processor 1", "processor", "items", [100], [7]⟩] := by
  constructor
  · rw [reports_every_iff]
    decide +kernel
  · decide +kernel

structure Normalised (locale : Locale) (name : String) : Prop where
  nonempty : name ≠ ""
  characters : ∀ c ∈ name.toList, NameCharacter c
  single : ¬ ['-', '-'] <:+: name.toList
  stable : getName locale name = name

theorem normalised_getName (locale : Locale) {name : String} (nonempty : name ≠ "") :
    Normalised locale (getName locale name) where
  nonempty := getName_ne_empty locale nonempty
  characters := nameCharacter_getName locale name
  single := not_adjacent (by decide) (collapsed_getName locale name)
  stable := getName_getName locale name

/-- The containers whose tasks have returned, with failed and late tasks between them. -/
def Returned (locale : Locale) (registered : List (Answer V)) (results : List (Option (StatsContainer V))) : Prop :=
  ∀ c, some c ∈ results → ∃ answer ∈ registered, answer.call locale = c

section Filter

variable {locale : Locale} {registered : List (Answer V)} {results : List (Option (StatsContainer V))}

theorem mem_wanted {names : List String} {c : StatsContainer V} :
    c ∈ (results.filterMap id).filter (StatsContainer.wanted names) ↔ some c ∈ results ∧ c.wanted names = true := by
  simp [List.mem_filter]

theorem mem_of_mem_collect {names : List String} {c : StatsContainer V}
    (member : c ∈ results.foldl (collect names) []) : some c ∈ results ∧ c.wanted names = true := by
  rw [collect_results] at member
  exact mem_wanted.mp (SortedSet.mem_of_mem_addAll member)

theorem returned_named (returned : Returned locale registered results) {c : StatsContainer V}
    (member : some c ∈ results) : ∃ name, c.name = some name := by
  obtain ⟨answer, _, rfl⟩ := returned c member
  exact ⟨_, rfl⟩

theorem returned_compared (returned : Returned locale registered results) (names : List String) :
    SortedSet.ComparedBy StatsContainer.compareTo compare StatsContainer.key
      ((results.filterMap id).filter (StatsContainer.wanted names)) := by
  intro a left b right
  obtain ⟨first, one⟩ := returned_named returned (mem_wanted.mp left).1
  obtain ⟨second, two⟩ := returned_named returned (mem_wanted.mp right).1
  simp [StatsContainer.compareTo, StatsContainer.key, one, two]

theorem mem_written_iff (returned : Returned locale registered results) {queryString : Option String}
    {written : List (JsonObject V)} (response : statistics queryString (some results) = some written) {name : String} :
    name ∈ written.map JsonObject.name ↔
      wanted (wantedNames queryString) name = true ∧ ∃ c, some c ∈ results ∧ c.name = some name := by
  cases response
  constructor
  · intro member
    obtain ⟨object, listed, rfl⟩ := List.mem_map.mp member
    obtain ⟨c, collected, made⟩ := List.mem_filterMap.mp listed
    obtain ⟨here, selected⟩ := mem_of_mem_collect collected
    obtain ⟨found, named⟩ := returned_named returned here
    rw [named] at made
    cases made
    rw [StatsContainer.wanted, named] at selected
    exact ⟨selected, c, here, named⟩
  · rintro ⟨selected, c, here, named⟩
    have accepted : c.wanted (wantedNames queryString) = true := by
      rw [StatsContainer.wanted, named]
      exact selected
    obtain ⟨kept, there, same⟩ :=
      SortedSet.key_mem_addAll (returned_compared returned _) (mem_wanted.mpr ⟨here, accepted⟩)
    rw [← collect_results] at there
    obtain ⟨other, found⟩ := returned_named returned (mem_of_mem_collect there).1
    simp only [StatsContainer.key, found, named, Option.getD_some] at same
    have equal : other = name := String.toList_injective (codeUnits_injective same)
    refine List.mem_map.mpr ⟨writeAsJSON kept.provider kept.stats other, List.mem_filterMap.mpr ⟨kept, there, ?_⟩, equal⟩
    rw [found, Option.map_some]

theorem filter_wanted {names : List String} (nonempty : names ≠ []) (results : List (Option (StatsContainer V))) :
    (results.filterMap id).filter (StatsContainer.wanted names) =
      ((results.filter fun result => result.any fun c => c.name.any names.contains).filterMap id).filter
        (StatsContainer.wanted []) := by
  induction results with
  | nil => rfl
  | cons result results ih =>
    cases result with
    | none => simpa using ih
    | some c =>
      cases name : c.name with
      | none => simpa [StatsContainer.wanted, name] using ih
      | some name' =>
        by_cases listed : name' ∈ names
        · simpa [StatsContainer.wanted, Servlet.wanted, name, listed] using ih
        · simpa [StatsContainer.wanted, Servlet.wanted, name, listed, nonempty] using ih

end Filter

theorem reported_name {locale : Locale} {registered : List (Answer V)} {results : List (Option (StatsContainer V))}
    (returned : Returned locale registered results) {queryString : Option String} {written : List (JsonObject V)}
    (response : statistics queryString (some results) = some written) {object : JsonObject V}
    (member : object ∈ written) : ∃ answer ∈ registered, object.name = answer.name locale := by
  cases response
  obtain ⟨c, listed, found⟩ := List.mem_filterMap.mp member
  obtain ⟨answer, known, rfl⟩ := returned c (mem_of_mem_collect listed).1
  cases found
  exact ⟨answer, known, rfl⟩

/-- Names that the endpoint has written select, as a query, the containers that have them: the response to the query
    is the one that these containers alone would get, in each of the names that one of them has. -/
theorem reported_names_filter {locale : Locale} {registered : List (Answer V)}
    (displayed : ∀ answer ∈ registered, answer.container.provider.name ≠ "")
    {results : List (Option (StatsContainer V))} (returned : Returned locale registered results)
    {queryString : Option String} {written : List (JsonObject V)}
    (response : statistics queryString (some results) = some written)
    {names : List String} (nonempty : names ≠ [])
    (reported : ∀ name ∈ names, name ∈ written.map JsonObject.name) :
    (∀ answer : Answer V, (answer.call locale).wanted (wantedNames (some (",".intercalate names))) = true ↔
        answer.name locale ∈ names) ∧
      (∀ later : List (Option (StatsContainer V)),
        statistics (some (",".intercalate names)) (some later) =
          statistics none (some (later.filter fun result => result.any fun c => c.name.any names.contains))) ∧
      (∀ (others : List (Answer V)) (later : List (Option (StatsContainer V))) (selected : List (JsonObject V)),
        Returned locale others later → statistics (some (",".intercalate names)) (some later) = some selected →
        ∀ name, name ∈ selected.map JsonObject.name ↔ name ∈ names ∧ ∃ c, some c ∈ later ∧ c.name = some name) ∧
      ∀ answer ∈ registered, Normalised locale (answer.name locale) := by
  have normalised : ∀ answer ∈ registered, Normalised locale (answer.name locale) := by
    intro answer member
    exact normalised_getName locale (displayed answer member)
  have listed : ∀ name ∈ names, Normalised locale name := by
    intro name member
    obtain ⟨object, here, rfl⟩ := List.mem_map.mp (reported name member)
    obtain ⟨answer, known, same⟩ := reported_name returned response here
    rw [same]
    exact normalised answer known
  have joined := wantedNames_joined nonempty (fun name member => (listed name member).nonempty)
    fun name member => (listed name member).characters
  refine ⟨fun answer => ?_, fun later => ?_, fun others later selected answered queried name => ?_, normalised⟩
  · rw [joined]
    simp [StatsContainer.wanted, Servlet.wanted, Answer.call, nonempty]
  · have same := filter_wanted nonempty later
    simp only [statistics, Option.map_some, joined, collect_results, same]
    rfl
  · rw [mem_written_iff answered queried, joined]
    simp [Servlet.wanted, nonempty]

def deployment : List (Answer Nat) :=
  [⟨⟨⟨"Queue", "utilization", "%"⟩, .createDefault, none⟩, 100, 7⟩,
    ⟨⟨⟨"Burst Sample Producer", "producer", "items"⟩, .createDefault, none⟩, 101, 8⟩,
    ⟨⟨⟨"Data store", "utilization", "%"⟩, .createDefault, none⟩, 102, 9⟩]

theorem reported_names_filter_deployment :
    ∃ written, statistics none (answers asciiLocale deployment) = some written ∧
      (∀ answer : Answer Nat, (answer.call asciiLocale).wanted
          (wantedNames (some (",".intercalate ["burst-sample-producer", "queue"]))) = true ↔
        answer.name asciiLocale ∈ ["burst-sample-producer", "queue"]) ∧
      statistics (some (",".intercalate ["burst-sample-producer", "queue"])) (answers asciiLocale deployment) =
        some [⟨"burst-sample-producer", "Burst Sample Producer", "producer", "items", [101], [8]⟩,
          ⟨"queue", "Queue", "utilization", "%", [100], [7]⟩] ∧
      ∀ answer ∈ deployment, Normalised asciiLocale (answer.name asciiLocale) := by
  have response : statistics none (answers asciiLocale deployment) =
      some [⟨"burst-sample-producer", "Burst Sample Producer", "producer", "items", [101], [8]⟩,
        ⟨"data-store", "Data store", "utilization", "%", [102], [9]⟩,
        ⟨"queue", "Queue", "utilization", "%", [100], [7]⟩] := by decide +kernel
  have returned : Returned asciiLocale deployment (deployment.map fun answer => some (answer.call asciiLocale)) := by
    intro c member
    obtain ⟨answer, known, same⟩ := List.mem_map.mp member
    exact ⟨answer, known, Option.some.inj same⟩
  obtain ⟨accepts, selects, _, normalised⟩ :=
    @reported_names_filter _ _ _ (by decide) _ returned _ _ response ["burst-sample-producer", "queue"] (by decide)
      (by decide)
  refine ⟨_, response, accepts, (selects _).trans ?_, normalised⟩
  decide +kernel

end Servlet
