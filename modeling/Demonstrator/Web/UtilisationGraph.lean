import Demonstrator.Java.Servlet.Statistics

namespace UtilisationGraph

open Collections Servlet Text

variable {V : Type}

inductive Canvas where
  | queueUtilisation
  | datastoreUtilisation
  deriving DecidableEq, Repr

def Canvas.provider : Canvas → String
  | .queueUtilisation => "queue"
  | .datastoreUtilisation => "data-store"

/-- What a callback has drawn, and whether it has ended with a `TypeError`. -/
structure Outcome (V : Type) where
  drawn : List (Canvas × JsonObject V)
  typeError : Bool
  deriving DecidableEq, Repr

/-- `renderGraph`: the properties of an `undefined` cannot be read. -/
def renderGraph (canvas : Canvas) (stats : Option (JsonObject V)) (before : Outcome V) : Outcome V :=
  if before.typeError then before
  else
    match stats with
    | none => { before with typeError := true }
    | some stats => { before with drawn := before.drawn ++ [(canvas, stats)] }

def renderUtilisationGraph : Option (List (JsonObject V)) → Outcome V
  | none => ⟨[], false⟩
  | some stats =>
    match stats[0]? with
    | none => ⟨[], true⟩
    | some first =>
      let queueIdx := if first.name = "queue" then 0 else 1
      renderGraph .datastoreUtilisation stats[1 - queueIdx]?
        (renderGraph .queueUtilisation stats[queueIdx]? ⟨[], false⟩)

def query : String := "queue,data-store"

theorem wantedNames_query : wantedNames (some query) = ["queue", "data-store"] := by decide +kernel

section Endpoint

variable {locale : Servlet.Locale} {registered : List (Answer V)} {results : List (Option (StatsContainer V))}

def reported (results : List (Option (StatsContainer V))) : List (StatsContainer V) :=
  SortedSet.addAll StatsContainer.compareTo
    ((results.filterMap id).filter (StatsContainer.wanted ["queue", "data-store"]))

theorem mem_reported {c : StatsContainer V} (member : c ∈ reported results) :
    some c ∈ results ∧ (c.name = some "queue" ∨ c.name = some "data-store") := by
  obtain ⟨listed, wanted⟩ := mem_wanted.mp (SortedSet.mem_of_mem_addAll member)
  refine ⟨listed, ?_⟩
  cases name : c.name with
  | none => simp [StatsContainer.wanted, name] at wanted
  | some name => simpa [StatsContainer.wanted, Servlet.wanted, name] using wanted

theorem reports_iff (returned : Returned locale registered results) {name : String}
    (asked : name = "queue" ∨ name = "data-store") :
    (∃ c ∈ reported results, c.name = some name) ↔ ∃ c, some c ∈ results ∧ c.name = some name := by
  constructor
  · rintro ⟨c, member, named⟩
    exact ⟨c, (mem_reported member).1, named⟩
  · rintro ⟨c, member, named⟩
    have wanted : c.wanted ["queue", "data-store"] = true := by
      simpa [StatsContainer.wanted, Servlet.wanted, named] using asked
    obtain ⟨kept, there, same⟩ :=
      SortedSet.key_mem_addAll (returned_compared returned _) (mem_wanted.mpr ⟨member, wanted⟩)
    refine ⟨kept, there, ?_⟩
    obtain ⟨other, found⟩ := returned_named returned (mem_reported there).1
    simp only [StatsContainer.key, found, named, Option.getD_some] at same
    rw [found, String.toList_injective (codeUnits_injective same)]

theorem reported_cases (returned : Returned locale registered results) :
    reported results = [] ∨ (∃ c, reported results = [c]) ∨
      ∃ store queue, reported results = [store, queue] ∧ store.name = some "data-store" ∧
        queue.name = some "queue" := by
  have ordered : SortedSet.Ordered compare StatsContainer.key (reported results) :=
    SortedSet.ordered_addAll (returned_compared returned _)
  have names : ∀ c ∈ reported results, c.name = some "queue" ∨ c.name = some "data-store" :=
    fun c member => (mem_reported member).2
  -- the only pair of names that is in order
  have pair : ∀ a b : StatsContainer V, (a.name = some "queue" ∨ a.name = some "data-store") →
      (b.name = some "queue" ∨ b.name = some "data-store") → compare a.key b.key = .lt →
      a.name = some "data-store" ∧ b.name = some "queue" := by
    intro a b left right less
    rcases left with left | left <;> rcases right with right | right <;>
      simp only [StatsContainer.key, left, right, Option.getD_some] at less
    · exact absurd less (by decide +kernel)
    · exact absurd less (by decide +kernel)
    · exact ⟨left, right⟩
    · exact absurd less (by decide +kernel)
  revert ordered names
  cases reported results with
  | nil => exact fun _ _ => .inl rfl
  | cons first rest =>
    intro ordered names
    cases rest with
    | nil => exact .inr (.inl ⟨first, rfl⟩)
    | cons second others =>
      obtain ⟨firstLess, later⟩ := List.pairwise_cons.mp ordered
      have here := pair first second (names first (by simp)) (names second (by simp)) (firstLess second (by simp))
      cases others with
      | nil => exact .inr (.inr ⟨first, second, rfl, here.1, here.2⟩)
      | cons third _ =>
        have next := pair second third (names second (by simp)) (names third (by simp))
          ((List.pairwise_cons.mp later).1 third (by simp))
        rw [here.2] at next
        exact absurd next.1 (by decide)

theorem statistics_query (results : List (Option (StatsContainer V))) :
    statistics (some query) (some results) = some ((reported results).map StatsContainer.object) := by
  have named : ∀ c ∈ reported results, c.name.isSome := by
    intro c member
    rcases (mem_reported member).2 with found | found <;> simp [found]
  rw [← filterMap_object named, statistics, wantedNames_query, Option.map_some, collect_results]
  rfl

theorem object_name {c : StatsContainer V} {name : String} (named : c.name = some name) : c.object.name = name := by
  simp [StatsContainer.object, writeAsJSON, named]

/-- What the dashboard draws out of a response to its query: each graph is drawn from the provider it is for, the one of
    the queue when the endpoint reports a queue, and the one of the data store only beside it. -/
theorem graphs_drawn (returned : Returned locale registered results) {written : List (JsonObject V)}
    (response : statistics (some query) (some results) = some written) :
    let outcome := renderUtilisationGraph (some written)
    let Reports := fun name => ∃ c, some c ∈ results ∧ c.name = some name
    (∀ graph ∈ outcome.drawn, graph.2.name = graph.1.provider ∧ graph.2 ∈ written) ∧
      ((∃ stats, (.queueUtilisation, stats) ∈ outcome.drawn) ↔ Reports "queue") ∧
      ((∃ stats, (.datastoreUtilisation, stats) ∈ outcome.drawn) ↔ Reports "queue" ∧ Reports "data-store") ∧
      (outcome.typeError = false ↔ Reports "queue" ∧ Reports "data-store") := by
  intro outcome Reports
  have queue : Reports "queue" ↔ ∃ c ∈ reported results, c.name = some "queue" :=
    (reports_iff returned (.inl rfl)).symm
  have store : Reports "data-store" ↔ ∃ c ∈ reported results, c.name = some "data-store" :=
    (reports_iff returned (.inr rfl)).symm
  rw [queue, store]
  rw [statistics_query results] at response
  cases response
  rcases reported_cases returned with none | ⟨c, only⟩ | ⟨c, d, both, first, second⟩
  · simp [outcome, none, renderUtilisationGraph]
  · have named : c.name = some "queue" ∨ c.name = some "data-store" := (mem_reported (only ▸ List.mem_cons_self)).2
    rcases named with named | named
    · simp [outcome, only, renderUtilisationGraph, renderGraph, object_name named, named, Canvas.provider]
    · simp [outcome, only, renderUtilisationGraph, renderGraph, object_name named, named]
  · simp [outcome, both, renderUtilisationGraph, renderGraph, object_name first, object_name second, first, second,
      Canvas.provider]

end Endpoint

def bothAnswers : List (Answer Nat) :=
  [⟨⟨⟨"Queue", "utilization", "%"⟩, .createDefault, none⟩, 100, 7⟩,
    ⟨⟨⟨"Data store", "utilization", "%"⟩, .createDefault, none⟩, 101, 8⟩]

theorem both_graphs_drawn :
    let results := none :: bothAnswers.map fun answer => some (answer.call asciiLocale)
    ∃ written, statistics (some query) (some results) = some written ∧
      (renderUtilisationGraph (some written)).drawn =
        [(.queueUtilisation, ⟨"queue", "Queue", "utilization", "%", [100], [7]⟩),
          (.datastoreUtilisation, ⟨"data-store", "Data store", "utilization", "%", [101], [8]⟩)] ∧
      ∀ graph ∈ (renderUtilisationGraph (some written)).drawn, graph.2.name = graph.1.provider := by
  intro results
  have returned : Returned asciiLocale bothAnswers results := by
    intro c member
    obtain ⟨answer, known, same⟩ := List.mem_map.mp ((List.mem_cons.mp member).resolve_left (by simp))
    exact ⟨answer, known, Option.some.inj same⟩
  have response : statistics (some query) (some results) =
      some [⟨"data-store", "Data store", "utilization", "%", [101], [8]⟩,
        ⟨"queue", "Queue", "utilization", "%", [100], [7]⟩] := by decide +kernel
  exact ⟨_, response, by decide, fun graph member => ((graphs_drawn returned response).1 graph member).1⟩

end UtilisationGraph
