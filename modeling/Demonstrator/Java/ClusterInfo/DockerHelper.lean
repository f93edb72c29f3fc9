import Demonstrator.Text.CodeUnits
import Mathlib.Data.List.Infix

namespace ClusterInfo

open Text

inductive JsonNode (Number : Type) where
  | missing
  | null
  | boolean (value : Bool)
  | number (value : Number)
  | text (value : String)
  | array (items : List (JsonNode Number))
  | object (fields : List (String × JsonNode Number))

/-- What depends on the libraries and the default locale: the conversions of a number, and whether a number can be
    read back from its text in the format `#.####`. -/
structure Runtime (Number : Type) where
  bigIntegerValue : Number → Option Int
  doubleValue : Number → Float
  longValue : Number → Int64
  rounded : Float → Option Float

inductive Exit where
  | nullPointerException
  | numberFormatException
  deriving DecidableEq, Repr

def deref {α : Type} : Option α → Except Exit α
  | none => .error .nullPointerException
  | some value => .ok value

def parsed {α : Type} : Option α → Except Exit α
  | none => .error .numberFormatException
  | some value => .ok value

variable {Number : Type}

namespace JsonNode

def path (node : JsonNode Number) (name : String) : JsonNode Number :=
  match node with
  | .object fields => (fields.lookup name).getD .missing
  | _ => .missing

def get (node : JsonNode Number) (index : Int) : Option (JsonNode Number) :=
  match node with
  | .array items => if 0 ≤ index then items[index.toNat]? else none
  | _ => none

def elements : JsonNode Number → List (JsonNode Number)
  | .array items => items
  | .object fields => fields.map Prod.snd
  | _ => []

def textValue : JsonNode Number → Option String
  | .text value => some value
  | _ => none

def bigIntegerValue (runtime : Runtime Number) : JsonNode Number → Option Int
  | .number value => runtime.bigIntegerValue value
  | _ => some 0

def doubleValue (runtime : Runtime Number) : JsonNode Number → Float
  | .number value => runtime.doubleValue value
  | _ => 0

def longValue (runtime : Runtime Number) : JsonNode Number → Int64
  | .number value => runtime.longValue value
  | _ => 0

end JsonNode

structure ContainerInfo where
  containerName : String
  cpuUsage : Float
  avgLoad : Float
  usedMem : Int64
  hotMem : Int64
  deriving DecidableEq

def ContainerInfo.create (runtime : Runtime Number) (containerName : String) (cpuUsage avgLoad : Float)
    (usedMem hotMem : Int64) : Except Exit ContainerInfo := do
  let cpuUsage ← parsed (runtime.rounded cpuUsage)
  let avgLoad ← parsed (runtime.rounded avgLoad)
  return { containerName, cpuUsage, avgLoad, usedMem, hotMem }

def getSize (parent : JsonNode Number) : Nat := parent.elements.length

def getLast (parent : JsonNode Number) : Option (JsonNode Number) := parent.get (getSize parent - 1)

def total (stat : JsonNode Number) : JsonNode Number := ((stat.path "cpu").path "usage").path "total"

def cpuUsage (firstCpuStat lastCpuStat : Int) (size : Nat) : Float :=
  (Float.ofInt lastCpuStat - Float.ofInt firstCpuStat) / (Float.ofNat size * 1000000000.0)

def getContainerCpuUsage (runtime : Runtime Number) (node : JsonNode Number) : Except Exit Float := do
  let size := getSize (node.path "stats")
  let firstStat := (node.path "stats").get 0
  let lastStat := (node.path "stats").get (size - 1)
  let firstCpuStat ← parsed ((total (← deref firstStat)).bigIntegerValue runtime)
  let lastCpuStat ← parsed ((total (← deref lastStat)).bigIntegerValue runtime)
  return cpuUsage firstCpuStat lastCpuStat size

def getContainerAvgLoad (runtime : Runtime Number) (lastStats : Option (JsonNode Number)) : Except Exit Float := do
  return (((← deref lastStats).path "cpu").path "load_average").doubleValue runtime

def getContainerUsedMem (runtime : Runtime Number) (lastStats : Option (JsonNode Number)) : Except Exit Int64 := do
  return (((← deref lastStats).path "memory").path "usage").longValue runtime

def getContainerHotMem (runtime : Runtime Number) (lastStats : Option (JsonNode Number)) : Except Exit Int64 := do
  return (((← deref lastStats).path "memory").path "working_set").longValue runtime

def contains (text part : String) : Bool := decide (part.toList <:+: text.toList)

def accepts (name : String) : Bool := !contains name "POD" && !contains name "kube-"

def measure (runtime : Runtime Number) (node : JsonNode Number) (name : String) : Except Exit ContainerInfo := do
  let lastStats := getLast (node.path "stats")
  let cpuLoad ← getContainerCpuUsage runtime node
  let avgLoad ← getContainerAvgLoad runtime lastStats
  let usedMem ← getContainerUsedMem runtime lastStats
  let hotMem ← getContainerHotMem runtime lastStats
  ContainerInfo.create runtime name cpuLoad avgLoad usedMem hotMem

def container (runtime : Runtime Number) (node : JsonNode Number) : Except Exit (Option ContainerInfo) := do
  let name ← deref (← deref ((node.path "aliases").get 0)).textValue
  if accepts name then return some (← measure runtime node name) else return none

def gather (runtime : Runtime Number) (result : List ContainerInfo) :
    List (JsonNode Number) → Except Exit (List ContainerInfo)
  | [] => .ok result
  | node :: rest => do gather runtime (result ++ (← container runtime node).toList) rest

/-- From the document of `readTree`, absent after an `IOException`. -/
def getContainerInfo (runtime : Runtime Number) (document : Option (JsonNode Number)) :
    Except Exit (List ContainerInfo) :=
  match document with
  | none => .ok []
  | some root => gather runtime [] root.elements

def firstAlias (node : JsonNode Number) : Option String := ((node.path "aliases").get 0).bind JsonNode.textValue

def wantedName (node : JsonNode Number) : Option String := (firstAlias node).filter accepts

def ReportsEach (runtime : Runtime Number) (root : JsonNode Number) : Prop :=
  ∃ infos, getContainerInfo runtime (some root) = .ok infos ∧
    infos.map ContainerInfo.containerName = root.elements.filterMap wantedName

structure Measured (runtime : Runtime Number) (stats first last : JsonNode Number) (firstTotal lastTotal : Int) :
    Prop where
  array : ∃ items, stats = .array items ∧ items.head? = some first ∧ items.getLast? = some last
  start : (total first).bigIntegerValue runtime = some firstTotal
  finish : (total last).bigIntegerValue runtime = some lastTotal
  cpuUsage : (runtime.rounded (cpuUsage firstTotal lastTotal (getSize stats))).isSome
  avgLoad : (runtime.rounded (((last.path "cpu").path "load_average").doubleValue runtime)).isSome

/-- A container whose first alias is a text, and which has statistics unless it is left out. -/
def Readable (runtime : Runtime Number) (node : JsonNode Number) : Prop :=
  ∃ name, firstAlias node = some name ∧ (accepts name = true →
    ∃ first last firstTotal lastTotal, Measured runtime (node.path "stats") first last firstTotal lastTotal)

theorem bind_ok_iff {α β : Type} {x : Except Exit α} {f : α → Except Exit β} {b : β} :
    (x >>= f) = .ok b ↔ ∃ a, x = .ok a ∧ f a = .ok b := by
  cases x with
  | error exit => exact ⟨fun h => (by cases h), fun ⟨_, wrong, _⟩ => (by cases wrong)⟩
  | ok a => exact ⟨fun h => ⟨a, rfl, h⟩, fun ⟨_, same, h⟩ => (by cases same; exact h)⟩

theorem deref_ok_iff {α : Type} {value : Option α} {a : α} : deref value = .ok a ↔ value = some a := by
  cases value <;> simp [deref]

theorem parsed_ok_iff {α : Type} {value : Option α} {a : α} : parsed value = .ok a ↔ value = some a := by
  cases value <;> simp [parsed]

theorem get_zero_iff {stats first : JsonNode Number} :
    stats.get 0 = some first ↔ ∃ items, stats = .array items ∧ items.head? = some first := by
  cases stats with
  | array items => simp [JsonNode.get, List.head?_eq_getElem?]
  | _ => simp [JsonNode.get]

/-- The index of the last element is negative for an empty array. -/
theorem getLast_array (items : List (JsonNode Number)) : getLast (.array items) = items.getLast? := by
  rw [getLast, JsonNode.get, getSize, JsonNode.elements, List.getLast?_eq_getElem?]
  split
  · congr 1
    omega
  · have empty : items.length = 0 := by omega
    rw [List.length_eq_zero_iff.mp empty]
    rfl

section Parsing

variable {runtime : Runtime Number} {node : JsonNode Number}

theorem create_ok_iff {name : String} {cpuUsage avgLoad : Float} {usedMem hotMem : Int64} {info : ContainerInfo} :
    ContainerInfo.create runtime name cpuUsage avgLoad usedMem hotMem = .ok info ↔
      ∃ cpu avg, runtime.rounded cpuUsage = some cpu ∧ runtime.rounded avgLoad = some avg ∧
        info = ⟨name, cpu, avg, usedMem, hotMem⟩ := by
  simp only [ContainerInfo.create, bind_ok_iff, parsed_ok_iff]
  constructor
  · rintro ⟨cpu, first, avg, second, made⟩
    exact ⟨cpu, avg, first, second, (Except.ok.inj made).symm⟩
  · rintro ⟨cpu, avg, first, second, rfl⟩
    exact ⟨cpu, first, avg, second, rfl⟩

theorem getContainerCpuUsage_ok_iff {cpuLoad : Float} :
    getContainerCpuUsage runtime node = .ok cpuLoad ↔ ∃ first last firstTotal lastTotal,
      (node.path "stats").get 0 = some first ∧ getLast (node.path "stats") = some last ∧
      (total first).bigIntegerValue runtime = some firstTotal ∧
      (total last).bigIntegerValue runtime = some lastTotal ∧
      cpuLoad = cpuUsage firstTotal lastTotal (getSize (node.path "stats")) := by
  simp only [getContainerCpuUsage, bind_ok_iff, parsed_ok_iff, deref_ok_iff]
  constructor
  · rintro ⟨first, found, firstTotal, start, last, ends, lastTotal, finish, usage⟩
    exact ⟨first, last, firstTotal, lastTotal, found, ends, start, finish, (Except.ok.inj usage).symm⟩
  · rintro ⟨first, last, firstTotal, lastTotal, found, ends, start, finish, rfl⟩
    exact ⟨first, found, firstTotal, start, last, ends, lastTotal, finish, rfl⟩

theorem measured_of_measure {name : String} {info : ContainerInfo} (h : measure runtime node name = .ok info) :
    (∃ first last firstTotal lastTotal, Measured runtime (node.path "stats") first last firstTotal lastTotal) ∧
      info.containerName = name := by
  obtain ⟨cpuLoad, load, h⟩ := bind_ok_iff.mp h
  obtain ⟨avgLoad, average, h⟩ := bind_ok_iff.mp h
  obtain ⟨usedMem, _, h⟩ := bind_ok_iff.mp h
  obtain ⟨hotMem, _, made⟩ := bind_ok_iff.mp h
  obtain ⟨first, last, firstTotal, lastTotal, found, ends, start, finish, rfl⟩ := getContainerCpuUsage_ok_iff.mp load
  obtain ⟨stats, known, value⟩ := bind_ok_iff.mp average
  cases ends.symm.trans (deref_ok_iff.mp known)
  cases value
  obtain ⟨cpu, avg, cpuText, avgText, rfl⟩ := create_ok_iff.mp made
  obtain ⟨items, array, head⟩ := get_zero_iff.mp found
  rw [array, getLast_array] at ends
  refine ⟨⟨first, last, firstTotal, lastTotal, ⟨items, array, head, ends⟩, start, finish, ?_, ?_⟩, rfl⟩
  · exact Option.isSome_of_eq_some cpuText
  · exact Option.isSome_of_eq_some avgText

theorem measure_of_measured {first last : JsonNode Number} {firstTotal lastTotal : Int} (name : String)
    (measured : Measured runtime (node.path "stats") first last firstTotal lastTotal) :
    ∃ info, measure runtime node name = .ok info := by
  obtain ⟨⟨items, array, head, ends⟩, start, finish, load, average⟩ := measured
  obtain ⟨cpu, cpuText⟩ := Option.isSome_iff_exists.mp load
  obtain ⟨avg, avgText⟩ := Option.isSome_iff_exists.mp average
  have found := get_zero_iff.mpr ⟨items, array, head⟩
  have lastStats : getLast (node.path "stats") = some last := by
    rw [array, getLast_array]
    exact ends
  have known := deref_ok_iff.mpr lastStats
  have usage := getContainerCpuUsage_ok_iff.mpr ⟨first, last, firstTotal, lastTotal, found, lastStats, start, finish, rfl⟩
  refine ⟨⟨name, cpu, avg, ((last.path "memory").path "usage").longValue runtime,
    ((last.path "memory").path "working_set").longValue runtime⟩, bind_ok_iff.mpr ⟨_, usage, ?_⟩⟩
  refine bind_ok_iff.mpr ⟨_, bind_ok_iff.mpr ⟨last, known, rfl⟩, ?_⟩
  refine bind_ok_iff.mpr ⟨_, bind_ok_iff.mpr ⟨last, known, rfl⟩, ?_⟩
  refine bind_ok_iff.mpr ⟨_, bind_ok_iff.mpr ⟨last, known, rfl⟩, ?_⟩
  exact create_ok_iff.mpr ⟨cpu, avg, cpuText, avgText, rfl⟩

theorem readable_of_container {found : Option ContainerInfo} (h : container runtime node = .ok found) :
    Readable runtime node ∧ found.map ContainerInfo.containerName = wantedName node := by
  obtain ⟨aliasNode, first, h⟩ := bind_ok_iff.mp h
  obtain ⟨name, text, h⟩ := bind_ok_iff.mp h
  have named : firstAlias node = some name :=
    Option.bind_eq_some_iff.mpr ⟨aliasNode, deref_ok_iff.mp first, deref_ok_iff.mp text⟩
  rw [wantedName, named]
  by_cases accepted : accepts name = true
  · rw [if_pos accepted] at h
    obtain ⟨info, measured, made⟩ := bind_ok_iff.mp h
    obtain ⟨known, own⟩ := measured_of_measure measured
    cases made
    refine ⟨⟨name, named, fun _ => known⟩, ?_⟩
    simp [own, accepted, Option.filter]
  · rw [if_neg accepted] at h
    cases h
    refine ⟨⟨name, named, fun wrong => absurd wrong accepted⟩, ?_⟩
    simp [accepted, Option.filter]

theorem container_of_readable (readable : Readable runtime node) : ∃ found, container runtime node = .ok found := by
  obtain ⟨name, named, measured⟩ := readable
  obtain ⟨aliasNode, first, text⟩ := Option.bind_eq_some_iff.mp named
  by_cases accepted : accepts name = true
  · obtain ⟨_, _, _, _, known⟩ := measured accepted
    obtain ⟨info, made⟩ := measure_of_measured name known
    refine ⟨some info, bind_ok_iff.mpr ⟨aliasNode, deref_ok_iff.mpr first,
      bind_ok_iff.mpr ⟨name, deref_ok_iff.mpr text, ?_⟩⟩⟩
    rw [if_pos accepted]
    exact bind_ok_iff.mpr ⟨info, made, rfl⟩
  · refine ⟨none, bind_ok_iff.mpr ⟨aliasNode, deref_ok_iff.mpr first,
      bind_ok_iff.mpr ⟨name, deref_ok_iff.mpr text, ?_⟩⟩⟩
    rw [if_neg accepted]
    rfl

theorem gather_names {result infos : List ContainerInfo} {nodes : List (JsonNode Number)}
    (h : gather runtime result nodes = .ok infos) :
    (∀ node ∈ nodes, Readable runtime node) ∧ infos.map ContainerInfo.containerName =
      result.map ContainerInfo.containerName ++ nodes.filterMap wantedName := by
  induction nodes generalizing result with
  | nil =>
    cases h
    simp
  | cons node rest ih =>
    obtain ⟨found, added, later⟩ := bind_ok_iff.mp h
    obtain ⟨readable, name⟩ := readable_of_container added
    obtain ⟨others, names⟩ := ih later
    refine ⟨List.forall_mem_cons.mpr ⟨readable, others⟩, ?_⟩
    rw [names, List.map_append, List.filterMap_cons, ← name]
    cases found <;> simp

theorem gather_of_readable {nodes : List (JsonNode Number)} (readable : ∀ node ∈ nodes, Readable runtime node)
    (result : List ContainerInfo) : ∃ infos, gather runtime result nodes = .ok infos := by
  induction nodes generalizing result with
  | nil => exact ⟨result, rfl⟩
  | cons node rest ih =>
    obtain ⟨here, later⟩ := List.forall_mem_cons.mp readable
    obtain ⟨found, added⟩ := container_of_readable here
    obtain ⟨infos, done⟩ := ih later (result ++ found.toList)
    exact ⟨infos, bind_ok_iff.mpr ⟨found, added, done⟩⟩

end Parsing

/-- The call reports each container of a document just if it can read each of them. -/
theorem reports_each_iff (runtime : Runtime Number) (root : JsonNode Number) :
    ReportsEach runtime root ↔ ∀ node ∈ root.elements, Readable runtime node := by
  constructor
  · rintro ⟨infos, returned, _⟩
    exact (gather_names returned).1
  · intro readable
    obtain ⟨infos, returned⟩ := gather_of_readable readable []
    exact ⟨infos, returned, (gather_names returned).2⟩

def nameless : JsonNode Int := .object [("/docker/1", .object [("aliases", .array []), ("stats", .array [])])]

def unmeasured : JsonNode Int := .object [("/docker/2", .object [("aliases", .array [.text "web"]), ("stats", .array [])])]

theorem document_aborts :
    (∀ runtime, getContainerInfo runtime (some nameless) = .error .nullPointerException ∧
      ¬ ReportsEach runtime nameless) ∧
    ∀ runtime, getContainerInfo runtime (some unmeasured) = .error .nullPointerException ∧
      ¬ ReportsEach runtime unmeasured := by
  constructor
  · intro runtime
    have aborted : getContainerInfo runtime (some nameless) = .error .nullPointerException := rfl
    refine ⟨aborted, ?_⟩
    rintro ⟨infos, returned, _⟩
    cases aborted.symm.trans returned
  · intro runtime
    have aborted : getContainerInfo runtime (some unmeasured) = .error .nullPointerException := rfl
    refine ⟨aborted, ?_⟩
    rintro ⟨infos, returned, _⟩
    cases aborted.symm.trans returned

structure NodeInfo where
  ipAddress : String
  containerList : List ContainerInfo
  deriving DecidableEq

def NodeInfo.compareTo (info other : NodeInfo) : Ordering :=
  compare (codeUnits info.ipAddress.toList) (codeUnits other.ipAddress.toList)

def nodeInfos (runtime : Runtime Number) : List (String × Option (JsonNode Number)) → Except Exit (List NodeInfo)
  | [] => .ok []
  | (ipAddress, document) :: rest => do
    let containerList ← getContainerInfo runtime document
    return ⟨ipAddress, containerList⟩ :: (← nodeInfos runtime rest)

def gatherClusterInfo (runtime : Runtime Number) (nodes : List (String × Option (JsonNode Number))) :
    Except Exit (List NodeInfo) := do
  return (← nodeInfos runtime nodes).mergeSort fun a b => a.compareTo b != .gt

theorem getContainerInfo_returns_iff (runtime : Runtime Number) (document : Option (JsonNode Number)) :
    (∃ infos, getContainerInfo runtime document = .ok infos) ↔ ∀ root ∈ document, ReportsEach runtime root := by
  cases document with
  | none => exact ⟨fun _ _ wrong => (by cases wrong), fun _ => ⟨[], rfl⟩⟩
  | some root =>
    constructor
    · rintro ⟨infos, returned⟩ other same
      cases same
      exact ⟨infos, returned, (gather_names returned).2⟩
    · intro reports
      obtain ⟨infos, returned, _⟩ := reports root rfl
      exact ⟨infos, returned⟩

/-- One container that cannot be read aborts the gathering for the whole cluster. -/
theorem gatherClusterInfo_returns_iff (runtime : Runtime Number)
    (nodes : List (String × Option (JsonNode Number))) :
    (∃ infos, gatherClusterInfo runtime nodes = .ok infos) ↔
      ∀ node ∈ nodes, ∀ root ∈ node.2, ReportsEach runtime root := by
  have loop : (∃ infos, nodeInfos runtime nodes = .ok infos) ↔
      ∀ node ∈ nodes, ∀ root ∈ node.2, ReportsEach runtime root := by
    induction nodes with
    | nil => exact ⟨fun _ _ wrong => absurd wrong List.not_mem_nil, fun _ => ⟨[], rfl⟩⟩
    | cons node rest ih =>
      rw [List.forall_mem_cons, ← ih, ← getContainerInfo_returns_iff]
      constructor
      · rintro ⟨infos, returned⟩
        obtain ⟨containers, first, later⟩ := bind_ok_iff.mp returned
        obtain ⟨others, found, _⟩ := bind_ok_iff.mp later
        exact ⟨⟨containers, first⟩, others, found⟩
      · rintro ⟨⟨containers, first⟩, others, found⟩
        exact ⟨_, bind_ok_iff.mpr ⟨containers, first, bind_ok_iff.mpr ⟨others, found, rfl⟩⟩⟩
  rw [← loop]
  constructor
  · rintro ⟨infos, returned⟩
    obtain ⟨unsorted, found, _⟩ := bind_ok_iff.mp returned
    exact ⟨unsorted, found⟩
  · rintro ⟨unsorted, found⟩
    exact ⟨_, bind_ok_iff.mpr ⟨unsorted, found, rfl⟩⟩

end ClusterInfo
