import Demonstrator.Java.Coordinator.Service
import Demonstrator.Java.Servlet.Statistics
import Demonstrator.Json.Generator

namespace Servlet.DoGet

open Coordinator (ServiceType)
open Json Json.Generator Json.Writing

variable {V G : Type}

inductive Exit where
  | nullPointerException
  | rejectedExecutionException
  | concurrentModificationException
  | jsonGenerationException
  | remoteFailure
  deriving DecidableEq, Repr

inductive Number (V : Type) where
  | int (value : Int32)
  | long (value : Int64)
  | double (value : V)
  deriving DecidableEq, Repr

/-- What a container and its provider answer while the container is written. The tasks of other requests may change its
    map meanwhile, so that a timestamp that was listed has no value. -/
structure Replies (V : Type) where
  name : Option String
  getName : Except Exit (Option String)
  getType : Except Exit (Option String)
  getMeasurementUnit : Except Exit (Option String)
  keySet : Except Exit (List Int64)
  get : Int64 → Option V

/-- What `m_aggregator` answers; the field is read again for each call. -/
structure Aggregator (V : Type) where
  getName : Except Exit (Option String)
  getType : Except Exit (Option String)
  getMeasurementUnit : Except Exit (Option String)
  getValue : Except Exit V

/-- What a request finds. `invokeAll` gives no results to an interrupted thread, and throws once the executor was shut
    down. -/
structure Surroundings (V : Type) where
  results : Except Exit (Option (List (Option (StatsContainer V))))
  replies : StatsContainer V → Replies V
  getReplicaCount : ServiceType → Except Exit Int32
  productionRate : Int32
  processorCount : Int32
  producerCount : Int32
  aggregator : Aggregator V
  -- the document of the list of nodes
  clusterInfo : Except Exit (Value (Number V))

structure Response (V : Type) where
  status : Nat
  body : List (Token (Number V))
  exit : Except Exit Unit

def SC_OK : Nat := 200

def SC_NOT_FOUND : Nat := 404

def sort (timestamps : List Int64) : List Int64 := timestamps.mergeSort fun a b => decide (a ≤ b)

def unbox {α : Type} : Option α → Except Exit α
  | some value => .ok value
  | none => .error .nullPointerException

section Code

variable (g : Generator Exit G (Number V))

def writeValues (get : Int64 → Option V) (timestamps : List Int64) : Writing Exit G Unit :=
  timestamps.forM fun timestamp => do
    let value ← call (unbox (get timestamp))
    g.writeNumber (.double value)

def writeObject (displayName type unit : Option String) (timestamps : List Int64) (get : Int64 → Option V)
    (name : String) : Writing Exit G Unit := do
  g.writeStartObject
  g.writeStringField "name" (some name)
  g.writeStringField "displayName" displayName
  g.writeStringField "type" type
  g.writeStringField "unit" unit
  g.writeArrayFieldStart "timestamps"
  timestamps.forM fun timestamp => g.writeNumber (.long timestamp)
  g.writeEndArray
  g.writeArrayFieldStart "values"
  writeValues g get timestamps
  g.writeEndArray
  g.writeEndObject

def writeAsJSON (replies : Replies V) (name : String) : Writing Exit G Unit := do
  let displayName ← call replies.getName
  let type ← call replies.getType
  let unit ← call replies.getMeasurementUnit
  let timestamps := sort (← call replies.keySet)
  writeObject g displayName type unit timestamps replies.get name

def writeContainer (replies : Replies V) : Writing Exit G Unit :=
  match replies.name with
  | some name => writeAsJSON g replies name
  | none => pure ()

def Surroundings.containers (s : Surroundings V) (queryString : Option String)
    (results : List (Option (StatsContainer V))) : List (Replies V) :=
  (results.foldl (collect (wantedNames queryString)) []).map s.replies

def writeStatistics (s : Surroundings V) (queryString : Option String) : Writing Exit G Unit := do
  match ← call s.results with
  | none => pure ()
  | some results =>
    g.writeStartArray
    -- a container that fails is left as far as it was written
    (s.containers queryString results).forM fun replies => catching (writeContainer g replies) fun _ => pure ()
    g.writeEndArray

def writeSystemStats (s : Surroundings V) : Writing Exit G Unit := do
  let currentProcessorReplicaCount ← call (s.getReplicaCount .processor)
  let currentProducerReplicaCount ← call (s.getReplicaCount .producer)
  g.writeStartObject
  g.writeNumberField "productionRate" (.int s.productionRate)
  g.writeStringField "processors" (some (toString s.processorCount ++ " / " ++ toString currentProcessorReplicaCount))
  g.writeStringField "producers" (some (toString s.producerCount ++ " / " ++ toString currentProducerReplicaCount))
  g.writeEndObject

def writeUtilisation (aggregator : Aggregator V) : Writing Exit G Unit := do
  g.writeStartObject
  g.writeStringField "name" (← call aggregator.getName)
  g.writeStringField "type" (← call aggregator.getType)
  g.writeStringField "unit" (← call aggregator.getMeasurementUnit)
  g.writeNumberField "value" (.double (← call aggregator.getValue))
  g.writeEndObject

def writeClusterInfo (s : Surroundings V) : Writing Exit G Unit := do
  let clusterInfo ← call s.clusterInfo
  g.writeValue clusterInfo

def writeNothing : Writing Exit G Unit := do
  g.writeStartObject
  g.writeEndObject

/-- The generator is closed whether or not the code throws. -/
def respond (status : Nat) (code : Writing Exit G Unit) : Response V :=
  let (exit, generator) := code g.create
  { status, body := g.close generator, exit }

def doGet (s : Surroundings V) (pathInfo queryString : Option String) : Response V :=
  if pathInfo = some "/statistics" then respond g SC_OK (writeStatistics g s queryString)
  else if pathInfo = some "/systemStats" then respond g SC_OK (writeSystemStats g s)
  else if pathInfo = some "/utilisation" then respond g SC_OK (writeUtilisation g s.aggregator)
  else if pathInfo = some "/clusterInfo" then respond g SC_OK (writeClusterInfo g s)
  else respond g SC_NOT_FOUND (writeNothing g)

end Code

section Documents

def text (value : Option String) : Value (Number V) := value.elim .null .text

def stored (get : Int64 → Option V) : List Int64 → List V
  | [] => []
  | timestamp :: later =>
    match get timestamp with
    | some value => value :: stored get later
    | none => []

/-- What is written of a container; its values break off where one is gone. -/
structure Row (V : Type) where
  fields : List (String × Value (Number V))
  values : List (Value (Number V))
  whole : Bool

def Row.object (row : Row V) (values : List (Value (Number V))) : Value (Number V) :=
  .object (row.fields ++ [("values", .array values)])

variable (number : Number V → Value (Number V))

def Row.of (displayName type unit : Option String) (timestamps : List Int64) (get : Int64 → Option V) (name : String) :
    Row V where
  fields := [("name", .text name), ("displayName", text displayName), ("type", text type), ("unit", text unit),
    ("timestamps", .array (timestamps.map fun timestamp => number (.long timestamp)))]
  values := (stored get timestamps).map fun value => number (.double value)
  whole := timestamps.all fun timestamp => (get timestamp).isSome

def row (replies : Replies V) : Option (Row V) := do
  let name ← replies.name
  let displayName ← replies.getName.toOption
  let type ← replies.getType.toOption
  let unit ← replies.getMeasurementUnit.toOption
  let keys ← replies.keySet.toOption
  return .of number displayName type unit (sort keys) replies.get name

/-- The containers after one that breaks off are written among its values. -/
def nested : List (Row V) → List (Value (Number V))
  | [] => []
  | row :: later =>
    if row.whole then row.object row.values :: nested later else [row.object (row.values ++ nested later)]

def reached : List (String × Except Exit (Value (Number V))) → List (String × Value (Number V))
  | [] => []
  | (name, .ok value) :: later => (name, value) :: reached later
  | (_, .error _) :: _ => []

def Aggregator.fields (aggregator : Aggregator V) : List (String × Except Exit (Value (Number V))) :=
  [("name", aggregator.getName.map text), ("type", aggregator.getType.map text),
    ("unit", aggregator.getMeasurementUnit.map text),
    ("value", aggregator.getValue.map fun value => number (.double value))]

def Surroundings.rows (s : Surroundings V) (queryString : Option String) (results : List (Option (StatsContainer V))) :
    List (Row V) :=
  (s.containers queryString results).filterMap (row number)

def Surroundings.document (s : Surroundings V) (pathInfo queryString : Option String) : Option (Value (Number V)) :=
  if pathInfo = some "/statistics" then
    s.results.toOption.join.map fun results => .array (nested (s.rows number queryString results))
  else if pathInfo = some "/systemStats" then do
    let processors ← (s.getReplicaCount .processor).toOption
    let producers ← (s.getReplicaCount .producer).toOption
    return .object [("productionRate", number (.int s.productionRate)),
      ("processors", .text (toString s.processorCount ++ " / " ++ toString processors)),
      ("producers", .text (toString s.producerCount ++ " / " ++ toString producers))]
  else if pathInfo = some "/utilisation" then some (.object (reached (s.aggregator.fields number)))
  else if pathInfo = some "/clusterInfo" then s.clusterInfo.toOption
  else some (.object [])

theorem ends_field {α : Type} {g : Generator Exit G (Number V)} {name : String} {value : α → Value (Number V)}
    {writing : α → Writing Exit G Unit} {rest : Writing Exit G Unit} (reply : Except Exit α)
    (later : List (String × Except Exit (Value (Number V))))
    (writes : ∀ answer, g.Writes [.object] (writing answer) (.fieldName name :: (value answer).tokens) [.object])
    (ends : ∃ returns, g.Ends [.object] rest returns (fieldTokens (reached later) ++ [.endObject])) :
    ∃ returns, g.Ends [.object] (do let answer ← call reply; writing answer; rest) returns
      (fieldTokens (reached ((name, reply.map value) :: later)) ++ [.endObject]) := by
  cases reply with
  | error thrown => exact ⟨false, (throws_call thrown).ends (by decide)⟩
  | ok answer =>
    obtain ⟨returns, ends⟩ := ends
    exact ⟨returns, ((writes answer).bind_ends ends).congr (by simp [Except.map, reached, fieldTokens])⟩

section Writing

variable {g : Generator Exit G (Number V)} (documented : g.Documented)
include documented

theorem writes_timestamps (timestamps : List Int64) (outer : List Context) :
    g.Writes (.array :: outer) (timestamps.forM fun timestamp => g.writeNumber (.long timestamp))
      (itemTokens (timestamps.map fun timestamp => g.number (.long timestamp))) (.array :: outer) := by
  rw [itemTokens_eq, List.flatMap_map]
  exact writes_forM fun timestamp _ => documented.writeNumber (.long timestamp) _ _ rfl

theorem runs_values (get : Int64 → Option V) (timestamps : List Int64) (outer : List Context) :
    g.Runs (.array :: outer) (writeValues g get timestamps) (timestamps.all fun timestamp => (get timestamp).isSome)
      (itemTokens ((stored get timestamps).map fun value => g.number (.double value))) (.array :: outer) := by
  induction timestamps with
  | nil => exact writes_pure
  | cons timestamp later ih =>
    rw [writeValues, List.forM_eq_forM, List.forM_cons, List.all_cons, stored]
    cases get timestamp with
    | none => exact (throws_call Exit.nullPointerException).bind_of_throws _
    | some value =>
      have written : g.Writes (.array :: outer) (do
          let value ← call (unbox (some value))
          g.writeNumber (.double value)) (g.number (.double value)).tokens (.array :: outer) :=
        documented.writeNumber (.double value) _ _ rfl
      simp only [Option.isSome_some, Bool.true_and, List.map_cons, itemTokens]
      exact written.bind ih

def Row.tokens (row : Row V) : List (Token (Number V)) :=
  .startObject :: (fieldTokens row.fields ++ .fieldName "values" :: .startArray :: (itemTokens row.values ++
    if row.whole then [.endArray, .endObject] else []))

def Row.after (row : Row V) (outer : List Context) : List Context :=
  if row.whole then .array :: outer else .array :: .object :: .array :: outer

theorem writes_object (displayName type unit : Option String) (timestamps : List Int64) (get : Int64 → Option V)
    (name : String) (outer : List Context) :
    let row := Row.of g.number displayName type unit timestamps get name
    g.Runs (.array :: outer) (writeObject g displayName type unit timestamps get name) row.whole row.tokens
      (row.after outer) := by
  intro row
  have values := runs_values documented get timestamps (.object :: .array :: outer)
  have ended : g.Runs (.array :: .object :: .array :: outer)
      (do writeValues g get timestamps; g.writeEndArray; g.writeEndObject) row.whole
      (itemTokens row.values ++ if row.whole then [.endArray, .endObject] else []) (row.after outer) := by
    unfold Row.after
    change g.Runs _ _ row.whole _ _ at values
    cases whole : row.whole with
    | true =>
      rw [whole] at values
      exact values.bind ((documented.writeEndArray _).bind (documented.writeEndObject _))
    | false =>
      rw [whole] at values
      exact (values.bind_of_throws _).congr (List.append_nil _).symm
  have started := documented.writeStartObject (.array :: outer) _ rfl
  have written := started.bind
    ((documented.writeStringField "name" _ (some name)).bind
    ((documented.writeStringField "displayName" _ displayName).bind
    ((documented.writeStringField "type" _ type).bind
    ((documented.writeStringField "unit" _ unit).bind
    ((documented.writeArrayFieldStart "timestamps" _).bind
    ((writes_timestamps documented timestamps _).bind
    ((documented.writeEndArray _).bind
    ((documented.writeArrayFieldStart "values" _).bind ended))))))))
  have texts : ∀ value : Option String, (text value : Value (Number V)).tokens = [value.elim .null .text] := by
    intro value
    cases value <;> rfl
  refine written.congr ?_
  simp [Row.tokens, row, Row.of, fieldTokens, texts, Value.tokens]

theorem writes_container (replies : Replies V) (outer : List Context) :
    match row g.number replies with
    | none => g.Writes (.array :: outer) (catching (writeContainer g replies) fun _ => pure ()) [] (.array :: outer)
    | some row => g.Writes (.array :: outer) (catching (writeContainer g replies) fun _ => pure ()) row.tokens
        (row.after outer) := by
  unfold writeContainer row
  cases replies.name with
  | none => exact writes_pure.catching
  | some name =>
    unfold writeAsJSON
    cases replies.getName with
    | error thrown => exact (throws_call thrown).catching
    | ok displayName =>
      cases replies.getType with
      | error thrown => exact (throws_call thrown).catching
      | ok type =>
        cases replies.getMeasurementUnit with
        | error thrown => exact (throws_call thrown).catching
        | ok unit =>
          cases replies.keySet with
          | error thrown => exact (throws_call thrown).catching
          | ok keys => exact (writes_object documented displayName type unit (sort keys) replies.get name outer).catching

/-- Whatever is open around the rows, the end of the array and the closing of the generator end all of it. -/
theorem ends_rows (containers : List (Replies V)) (outer : List Context) (named : .field ∉ outer) :
    g.Ends (.array :: outer)
      (do
        containers.forM fun replies => catching (writeContainer g replies) fun _ => pure ()
        g.writeEndArray)
      true (itemTokens (nested (containers.filterMap (row g.number))) ++ .endArray :: outer.map Context.close) := by
  induction containers generalizing outer with
  | nil => exact (writes_pure.bind (documented.writeEndArray outer)).ends named
  | cons replies later ih =>
    rw [List.forM_eq_forM, List.forM_cons, bind_assoc]
    have written := writes_container documented replies outer
    cases found : row g.number replies with
    | none =>
      rw [found] at written
      rw [List.filterMap_cons_none found]
      exact written.bind_ends (ih outer named)
    | some row =>
      rw [found] at written
      rw [List.filterMap_cons_some found]
      unfold Row.tokens Row.after at written
      cases whole : row.whole with
      | true =>
        simp only [whole, if_true] at written
        refine (written.bind_ends (ih outer named)).congr ?_
        simp [nested, whole, Row.object, itemTokens, Value.tokens, fieldTokens_append, fieldTokens]
      | false =>
        simp only [whole, Bool.false_eq_true, if_false] at written
        refine (written.bind_ends (ih (.object :: .array :: outer) (by simpa using named))).congr ?_
        simp [nested, whole, Row.object, itemTokens, itemTokens_append, Value.tokens, fieldTokens_append, fieldTokens,
          Context.close]

theorem respond_body {code : Writing Exit G Unit} {returns : Bool} {tokens : List (Token (Number V))} (status : Nat)
    (ends : g.Ends [] code returns tokens) :
    (respond g status code).body = tokens ∧ (respond g status code).exit.isOk = returns :=
  ⟨(documented.closed ends).2, (documented.closed ends).1⟩

theorem ends_statistics (s : Surroundings V) (queryString : Option String) :
    g.Ends [] (writeStatistics g s queryString) s.results.isOk
      ((s.document g.number (some "/statistics") queryString).elim [] Value.tokens) := by
  have document : s.document g.number (some "/statistics") queryString =
      s.results.toOption.join.map fun results => .array (nested (s.rows g.number queryString results)) := rfl
  rw [document]
  unfold writeStatistics
  cases s.results with
  | error thrown => exact (throws_call thrown).ends List.not_mem_nil
  | ok results =>
    cases results with
    | none => exact writes_pure.ends List.not_mem_nil
    | some results =>
      have started := documented.writeStartArray [] _ rfl
      refine (started.bind_ends (ends_rows documented (s.containers queryString results) [] List.not_mem_nil)).congr ?_
      simp [Except.toOption, Value.tokens, Surroundings.rows]

theorem ends_systemStats (s : Surroundings V) (queryString : Option String) : ∃ returns,
    g.Ends [] (writeSystemStats g s) returns
      ((s.document g.number (some "/systemStats") queryString).elim [] Value.tokens) := by
  unfold writeSystemStats
  cases processors : s.getReplicaCount .processor with
  | error thrown =>
    refine ⟨false, ((throws_call thrown).ends List.not_mem_nil).congr ?_⟩
    simp [Surroundings.document, processors, Except.toOption]
  | ok currentProcessors =>
    cases producers : s.getReplicaCount .producer with
    | error thrown =>
      refine ⟨false, ((throws_call thrown).ends List.not_mem_nil).congr ?_⟩
      simp [Surroundings.document, processors, producers, Except.toOption]
    | ok currentProducers =>
      have started := documented.writeStartObject [] _ rfl
      have counts : ∀ name (count current : Int32), g.Writes [.object]
          (g.writeStringField name (some (toString count ++ " / " ++ toString current)))
          [.fieldName name, .text (toString count ++ " / " ++ toString current)] [.object] :=
        fun name _ _ => documented.writeStringField name [] (some _)
      have written := started.bind
        ((documented.writeNumberField "productionRate" _ (.int s.productionRate)).bind
        ((counts "processors" s.processorCount currentProcessors).bind
        ((counts "producers" s.producerCount currentProducers).bind (documented.writeEndObject []))))
      refine ⟨true, (written.ends List.not_mem_nil).congr ?_⟩
      simp [Surroundings.document, processors, producers, Except.toOption, Value.tokens, fieldTokens]

theorem ends_utilisation (aggregator : Aggregator V) : ∃ returns,
    g.Ends [] (writeUtilisation g aggregator) returns
      (Value.object (reached (aggregator.fields g.number))).tokens := by
  have texts : ∀ name (value : Option String), g.Writes [.object] (g.writeStringField name value)
      (.fieldName name :: (text value).tokens) [.object] := by
    intro name value
    cases value <;> exact documented.writeStringField name [] _
  obtain ⟨returns, ends⟩ := ends_field aggregator.getName _ (texts "name") <|
    ends_field aggregator.getType _ (texts "type") <|
    ends_field aggregator.getMeasurementUnit _ (texts "unit") <|
    ends_field aggregator.getValue [] (fun value => documented.writeNumberField "value" [] (.double value)) <|
    ⟨true, (documented.writeEndObject []).ends List.not_mem_nil⟩
  exact ⟨returns, (documented.writeStartObject [] _ rfl).bind_ends ends⟩

theorem ends_clusterInfo (s : Surroundings V) : ∃ returns,
    g.Ends [] (writeClusterInfo g s) returns (s.clusterInfo.toOption.elim [] Value.tokens) := by
  unfold writeClusterInfo
  cases s.clusterInfo with
  | error thrown => exact ⟨false, (throws_call thrown).ends List.not_mem_nil⟩
  | ok clusterInfo =>
    exact ⟨true, ((documented.writeValue clusterInfo [] [] rfl).ends List.not_mem_nil).congr (List.append_nil _)⟩

theorem ends_nothing : g.Ends [] (writeNothing g) true (Value.object []).tokens :=
  ((documented.writeStartObject [] _ rfl).bind (documented.writeEndObject [])).ends List.not_mem_nil

theorem doGet_body (s : Surroundings V) (pathInfo queryString : Option String) :
    (doGet g s pathInfo queryString).body = (s.document g.number pathInfo queryString).elim [] Value.tokens := by
  unfold doGet
  split_ifs with statistics systemStats utilisation clusterInfo
  · rw [statistics]
    exact (respond_body documented _ (ends_statistics documented s queryString)).1
  · rw [systemStats]
    obtain ⟨returns, ends⟩ := ends_systemStats documented s queryString
    exact (respond_body documented _ ends).1
  · rw [utilisation]
    obtain ⟨returns, ends⟩ := ends_utilisation documented s.aggregator
    exact (respond_body documented _ ends).1
  · rw [clusterInfo]
    obtain ⟨returns, ends⟩ := ends_clusterInfo documented s
    exact (respond_body documented _ ends).1
  · simp only [Surroundings.document, if_neg statistics, if_neg systemStats, if_neg utilisation, if_neg clusterInfo]
    exact (respond_body documented _ (ends_nothing documented)).1

end Writing

def Replies.of (container : StatsContainer V) : Replies V where
  name := container.name
  getName := .ok (some container.provider.name)
  getType := .ok (some container.provider.type)
  getMeasurementUnit := .ok (some container.provider.unit)
  keySet := .ok container.stats.map.keys
  get := container.stats.map.get

def document (written : JsonObject V) : Value (Number V) :=
  .object [("name", .text written.name), ("displayName", .text written.displayName), ("type", .text written.type),
    ("unit", .text written.unit),
    ("timestamps", .array (written.timestamps.map fun timestamp => number (.long timestamp))),
    ("values", .array (written.values.map fun value => number (.double value)))]

theorem stored_of_known {get : Int64 → Option V} {timestamps : List Int64}
    (known : ∀ timestamp ∈ timestamps, (get timestamp).isSome = true) :
    stored get timestamps = timestamps.filterMap get := by
  induction timestamps with
  | nil => rfl
  | cons timestamp later ih =>
    rw [List.forall_mem_cons] at known
    obtain ⟨value, found⟩ := Option.isSome_iff_exists.mp known.1
    rw [stored, found, List.filterMap_cons_some found, ih known.2]

theorem nested_whole {rows : List (Row V)} (whole : ∀ row ∈ rows, row.whole = true) :
    nested rows = rows.map fun row => row.object row.values := by
  induction rows with
  | nil => rfl
  | cons row later ih =>
    rw [List.forall_mem_cons] at whole
    rw [nested, if_pos whole.1, ih whole.2, List.map_cons]

theorem sorted_known (stats : TimestampMap V) :
    ∀ timestamp ∈ sort stats.map.keys, (stats.map.get timestamp).isSome = true :=
  fun _ member => stats.map.get_isSome_iff.mpr (List.mem_mergeSort.mp member)

theorem row_of (container : StatsContainer V) : row number (.of container) = container.name.map
    (Row.of number (some container.provider.name) (some container.provider.type) (some container.provider.unit)
      (sort container.stats.map.keys) container.stats.map.get) := by
  cases named : container.name with
  | none => simp [row, Replies.of, named]
  | some name => simp [row, Replies.of, named, Except.toOption]

theorem object_of (container : StatsContainer V) (name : String) :
    let row := Row.of number (some container.provider.name) (some container.provider.type)
      (some container.provider.unit) (sort container.stats.map.keys) container.stats.map.get name
    row.whole = true ∧ row.object row.values =
      document number (Servlet.writeAsJSON container.provider container.stats name) := by
  refine ⟨List.all_eq_true.mpr (sorted_known container.stats), ?_⟩
  simp only [Row.object, Row.of, stored_of_known (sorted_known container.stats)]
  rfl

theorem nested_of (queryString : Option String) (results : List (Option (StatsContainer V))) (s : Surroundings V) :
    some (nested (Surroundings.rows number { s with replies := Replies.of } queryString results)) =
      (statistics queryString (some results)).map fun written => written.map (document number) := by
  have rows : Surroundings.rows number { s with replies := Replies.of } queryString results =
      (results.foldl (collect (wantedNames queryString)) []).filterMap fun container => row number (.of container) :=
    List.filterMap_map ..
  rw [rows, nested_whole]
  · simp only [statistics, Option.map_some, List.map_filterMap, row_of, Option.map_map]
    congr 3
    funext container
    congr 1
    funext name
    exact (object_of number container name).2
  · intro written member
    obtain ⟨container, _, found⟩ := List.mem_filterMap.mp member
    rw [row_of] at found
    obtain ⟨name, _, rfl⟩ := Option.map_eq_some_iff.mp found
    exact (object_of number container name).1

/-- Whatever of the calls a response needs throws, and wherever, the client reads either nothing at all or one whole
    document. That of the statistics has the containers that have answered, the later ones among the values of one that
    breaks off. -/
theorem documents_read {g : Generator Exit G (Number V)} (documented : g.Documented) (s : Surroundings V)
    (queryString : Option String) :
    (∀ pathInfo, match s.document g.number pathInfo queryString with
      | none => (doGet g s pathInfo queryString).body = []
      | some document => read (doGet g s pathInfo queryString).body = some document) ∧
    (doGet g s (some "/statistics") queryString).exit.isOk = s.results.isOk ∧
    ∀ results, s.results = .ok (some results) →
      ((∀ row ∈ s.rows g.number queryString results, row.whole = true) →
        s.document g.number (some "/statistics") queryString =
          some (.array ((s.rows g.number queryString results).map fun row => row.object row.values))) ∧
      { s with replies := Replies.of }.document g.number (some "/statistics") queryString =
        (statistics queryString (some results)).map fun written => .array (written.map (document g.number)) := by
  refine ⟨fun pathInfo => ?_, ?_, fun results found => ⟨fun whole => ?_, ?_⟩⟩
  · have body := doGet_body documented s pathInfo queryString
    cases found : s.document g.number pathInfo queryString with
    | none => rw [body, found, Option.elim_none]
    | some document => rw [body, found, Option.elim_some, read_tokens]
  · exact (respond_body documented SC_OK (ends_statistics documented s queryString)).2
  · simp [Surroundings.document, found, Except.toOption, nested_whole whole]
  · have rows := congrArg (Option.map Value.array) (nested_of g.number queryString results s)
    rw [Option.map_map] at rows
    have known : s.results.toOption.join = some results := by rw [found]; rfl
    simp only [Surroundings.document, known, if_true, Option.map_some]
    exact rows

def lost : Replies Nat where
  name := some "burst-sample-producer"
  getName := .ok (some "Burst Sample Producer")
  getType := .ok (some "producer")
  getMeasurementUnit := .ok none
  keySet := .ok [101]
  get _ := none

/-- A late task has evicted the value of the first provider, and the second one throws. -/
def breaking : Surroundings Nat where
  results := .ok (answers asciiLocale deployment)
  replies container :=
    if container.name = lost.name then lost
    else if container.name = some "data-store" then { Replies.of container with getType := .error .remoteFailure }
    else .of container
  getReplicaCount _ := .error .nullPointerException
  productionRate := 5
  processorCount := 0
  producerCount := 0
  aggregator := ⟨.ok none, .error .remoteFailure, .ok none, .ok 3⟩
  clusterInfo := .error .nullPointerException

def recorder : Generator Exit (Recorder (Number Nat)) (Number Nat) :=
  Recorder.generator .jsonGenerationException .number

theorem breaking_read :
    (∃ statistics, breaking.document recorder.number (some "/statistics") none = some statistics ∧
      read (doGet recorder breaking (some "/statistics") none).body = some statistics) ∧
    (doGet recorder breaking (some "/statistics") none).exit.isOk = true ∧
    (doGet recorder breaking (some "/statistics") none).body =
      [.startArray, .startObject, .fieldName "name", .text "burst-sample-producer",
        .fieldName "displayName", .text "Burst Sample Producer", .fieldName "type", .text "producer",
        .fieldName "unit", .null, .fieldName "timestamps", .startArray, .number (.long 101), .endArray,
        .fieldName "values", .startArray, .startObject, .fieldName "name", .text "queue",
        .fieldName "displayName", .text "Queue", .fieldName "type", .text "utilization", .fieldName "unit", .text "%",
        .fieldName "timestamps", .startArray, .number (.long 100), .endArray,
        .fieldName "values", .startArray, .number (.double 7), .endArray, .endObject,
        .endArray, .endObject, .endArray] := by
  obtain ⟨read, returns, _⟩ := documents_read (Recorder.documented _ _) breaking none
  refine ⟨⟨_, rfl, read (some "/statistics")⟩, returns, ?_⟩
  decide +kernel

end Documents

end Servlet.DoGet
