import Demonstrator.Transition.Runs
import Demonstrator.Web.RenderStats
import Mathlib.Algebra.BigOperators.Group.List.Basic
import Mathlib.Algebra.Ring.Nat
import Mathlib.Logic.Function.Basic

namespace Polling

open Transition

variable {Chain Page Response : Type}

/-- What the browser still has to deliver: the outcome of a request, numbered along its chain of requests, or a timeout
    whose function calls `getJSON` for some chains. -/
inductive Pending (Chain : Type) where
  | request (chain : Chain) (number : Nat)
  | timeout (chains : List Chain)
  deriving DecidableEq, Repr

/-- The arguments of `getJSON` for each chain. The callback gives the page that it leaves behind, also when it throws. -/
structure Script (Chain Page Response : Type) where
  callback : Chain → Page → Response → Page
  ival : Chain → Int

/-- The page and the event loop, with the number of the requests of each chain, the responses that were given to a
    callback, and the chains that have nothing more to come. -/
structure Browser (Chain Page Response : Type) where
  pending : List (Pending Chain)
  page : Page
  sent : Chain → Nat
  answered : List (Chain × Nat × Response)
  ended : List Chain

inductive Event (Chain Response : Type) where
  | load (chain : Chain) (number : Nat) (status : Nat) (response : Response)
  | error (chain : Chain) (number : Nat)
  | timeout (chains : List Chain)

section Steps

variable [DecidableEq Chain]

def getJSON (b : Browser Chain Page Response) (chain : Chain) : Browser Chain Page Response :=
  { b with
    pending := b.pending ++ [.request chain (b.sent chain)]
    sent := Function.update b.sent chain (b.sent chain + 1) }

def onloadWindow (page : Page) (start : List (List Chain)) : Browser Chain Page Response :=
  ⟨start.map .timeout, page, fun _ => 0, [], []⟩

def handle (script : Script Chain Page Response) (b : Browser Chain Page Response) (chain : Chain) (number status : Nat)
    (response : Response) : Browser Chain Page Response :=
  if status ≠ 200 then b
  else
    { b with
      page := script.callback chain b.page response
      answered := b.answered ++ [(chain, number, response)] }

/-- The `finally` block of `xhr.onload`. -/
def again (script : Script Chain Page Response) (b : Browser Chain Page Response) (chain : Chain) :
    Browser Chain Page Response :=
  if script.ival chain > 0 then { b with pending := b.pending ++ [.timeout [chain]] }
  else { b with ended := b.ended ++ [chain] }

def step (script : Script Chain Page Response) (b : Browser Chain Page Response) :
    Event Chain Response → Option (Browser Chain Page Response)
  | .load chain number status response =>
    if .request chain number ∈ b.pending then
      let delivered := { b with pending := b.pending.erase (.request chain number) }
      some (again script (handle script delivered chain number status response) chain)
    else none
  | .error chain number =>
    -- there is no handler for the network errors of a request
    if .request chain number ∈ b.pending then
      some { b with pending := b.pending.erase (.request chain number), ended := b.ended ++ [chain] }
    else none
  | .timeout chains =>
    if .timeout chains ∈ b.pending then
      some (chains.foldl getJSON { b with pending := b.pending.erase (.timeout chains) })
    else none

def Pending.chains : Pending Chain → List Chain
  | .request chain _ => [chain]
  | .timeout chains => chains

def waiting (chain : Chain) (pending : List (Pending Chain)) : Nat :=
  (pending.map fun entry => entry.chains.count chain).sum

theorem waiting_append (chain : Chain) (left right : List (Pending Chain)) :
    waiting chain (left ++ right) = waiting chain left + waiting chain right := by
  simp [waiting]

theorem waiting_erase (chain : Chain) {pending : List (Pending Chain)} {entry : Pending Chain}
    (member : entry ∈ pending) :
    entry.chains.count chain + waiting chain (pending.erase entry) = waiting chain pending :=
  List.sum_map_erase (fun entry => entry.chains.count chain) member

@[simp] theorem waiting_singleton (chain : Chain) (entry : Pending Chain) :
    waiting chain [entry] = entry.chains.count chain := by
  simp [waiting]

/-- Every chain of the start is in one place, `calls` being those whose `getJSON` is still to be called, and the
    answers of a chain came in the order of its requests. -/
structure InStep (start calls : List Chain) (b : Browser Chain Page Response) : Prop where
  balance : ∀ chain, waiting chain b.pending + calls.count chain + b.ended.count chain = start.count chain
  last : ∀ chain number, .request chain number ∈ b.pending → number + 1 = b.sent chain
  known : ∀ answer ∈ b.answered, answer.2.1 < b.sent answer.1
  earlier : ∀ answer ∈ b.answered, ∀ number, .request answer.1 number ∈ b.pending → answer.2.1 < number
  ordered : b.answered.Pairwise fun first later => first.1 = later.1 → first.2.1 < later.2.1

theorem waiting_request {chain : Chain} {number : Nat} {pending : List (Pending Chain)}
    (member : .request chain number ∈ pending) : 1 ≤ waiting chain pending := by
  have whole := waiting_erase chain member
  rw [Pending.chains, List.count_singleton_self] at whole
  omega

variable {script : Script Chain Page Response} {start calls : List Chain} {b : Browser Chain Page Response}
  {chain : Chain} {number : Nat}

theorem InStep.alone (inStep : InStep start calls b) (distinct : start.Nodup) (called : chain ∈ calls) :
    ∀ number, .request chain number ∉ b.pending := by
  intro number member
  have one := List.nodup_iff_count_le_one.mp distinct chain
  have balance := inStep.balance chain
  have flying := waiting_request member
  have called := List.one_le_count_iff.mpr called
  omega

theorem InStep.getJSON (inStep : InStep start (chain :: calls) b) (distinct : start.Nodup) :
    InStep start calls (getJSON b chain) where
  balance other := by
    have balance := inStep.balance other
    simp only [Polling.getJSON, waiting_append, waiting_singleton, Pending.chains, List.count_singleton]
    rw [List.count_cons] at balance
    omega
  last other number member := by
    rcases List.mem_append.mp member with before | new
    · have different : other ≠ chain := by
        rintro rfl
        exact inStep.alone distinct List.mem_cons_self number before
      simp only [Polling.getJSON, Function.update_of_ne different]
      exact inStep.last other number before
    · cases List.mem_singleton.mp new
      simp [Polling.getJSON]
  known answer member := by
    have before := inStep.known answer member
    by_cases same : answer.1 = chain
    · simp only [Polling.getJSON, same, Function.update_self]
      rw [same] at before
      omega
    · simp only [Polling.getJSON, Function.update_of_ne same]
      exact before
  earlier answer member number flying := by
    rcases List.mem_append.mp flying with before | new
    · exact inStep.earlier answer member number before
    · cases List.mem_singleton.mp new
      exact inStep.known answer member
  ordered := inStep.ordered

theorem InStep.callAll (inStep : InStep start calls b) (distinct : start.Nodup) :
    InStep start [] (calls.foldl Polling.getJSON b) := by
  induction calls generalizing b with
  | nil => exact inStep
  | cons chain rest ih => exact ih (inStep.getJSON distinct)

theorem InStep.deliver (inStep : InStep start [] b) {entry : Pending Chain} (member : entry ∈ b.pending) :
    InStep start entry.chains { b with pending := b.pending.erase entry } where
  balance other := by
    have balance := inStep.balance other
    have whole := waiting_erase other member
    rw [List.count_nil] at balance
    change waiting other (b.pending.erase entry) + entry.chains.count other + b.ended.count other = start.count other
    omega
  last other number flying := inStep.last other number (List.mem_of_mem_erase flying)
  known := inStep.known
  earlier answer known number flying := inStep.earlier answer known number (List.mem_of_mem_erase flying)
  ordered := inStep.ordered

theorem InStep.handle (inStep : InStep start [chain] b) (distinct : start.Nodup) (sent : number < b.sent chain)
    (latest : ∀ answer ∈ b.answered, answer.1 = chain → answer.2.1 < number) (status : Nat) (response : Response) :
    InStep start [chain] (handle script b chain number status response) := by
  unfold Polling.handle
  split
  · exact inStep
  · refine ⟨inStep.balance, inStep.last, ?_, ?_, ?_⟩
    · intro answer member
      rcases List.mem_append.mp member with before | new
      · exact inStep.known answer before
      · cases List.mem_singleton.mp new
        exact sent
    · intro answer member other flying
      rcases List.mem_append.mp member with before | new
      · exact inStep.earlier answer before other flying
      · cases List.mem_singleton.mp new
        exact absurd flying (inStep.alone distinct List.mem_cons_self other)
    · refine List.pairwise_append.mpr ⟨inStep.ordered, List.pairwise_singleton _ _, fun answer before new here => ?_⟩
      cases List.mem_singleton.mp here
      exact latest answer before

theorem InStep.again (inStep : InStep start [chain] b) : InStep start [] (again script b chain) := by
  unfold Polling.again
  split
  · refine ⟨fun other => ?_, fun other number flying => ?_, inStep.known, fun answer known number flying => ?_,
      inStep.ordered⟩
    · have balance := inStep.balance other
      simp only [waiting_append, waiting_singleton, Pending.chains, List.count_nil]
      omega
    · apply inStep.last other number
      simpa using flying
    · apply inStep.earlier answer known number
      simpa using flying
  · refine ⟨fun other => ?_, inStep.last, inStep.known, inStep.earlier, inStep.ordered⟩
    have balance := inStep.balance other
    simp only [List.count_append, List.count_nil]
    omega

theorem inStep_step (distinct : start.Nodup) (b : Browser Chain Page Response) (event : Event Chain Response)
    (next : Browser Chain Page Response) (inStep : InStep start [] b) (h : step script b event = some next) :
    InStep start [] next := by
  cases event with
  | load chain number status response =>
    simp only [step] at h
    split at h <;> cases h
    rename_i flying
    have delivered := inStep.deliver flying
    refine (delivered.handle distinct ?_ (fun answer before own => ?_) status response).again
    · have last := inStep.last chain number flying
      change number < b.sent chain
      omega
    · subst own
      exact inStep.earlier answer before number flying
  | error chain number =>
    simp only [step] at h
    split at h <;> cases h
    rename_i flying
    have delivered := inStep.deliver flying
    refine ⟨fun other => ?_, delivered.last, delivered.known, delivered.earlier, delivered.ordered⟩
    have balance := delivered.balance other
    simp only [Pending.chains, List.count_append, List.count_nil] at balance ⊢
    omega
  | timeout chains =>
    simp only [step] at h
    split at h <;> cases h
    rename_i due
    exact (inStep.deliver due).callAll distinct

def Shows (script : Script Chain Page Response) (page : Page) (b : Browser Chain Page Response) : Prop :=
  b.page = b.answered.foldl (fun page answer => script.callback answer.1 page answer.2.2) page

theorem calls_keep (chains : List Chain) (b : Browser Chain Page Response) :
    (chains.foldl getJSON b).page = b.page ∧ (chains.foldl getJSON b).answered = b.answered ∧
      (chains.foldl getJSON b).ended = b.ended := by
  induction chains generalizing b with
  | nil => exact ⟨rfl, rfl, rfl⟩
  | cons chain rest ih => exact ih (getJSON b chain)

omit [DecidableEq Chain] in
theorem again_keeps (script : Script Chain Page Response) (b : Browser Chain Page Response) (chain : Chain) :
    (again script b chain).page = b.page ∧ (again script b chain).answered = b.answered := by
  unfold again
  split <;> exact ⟨rfl, rfl⟩

theorem shows_step {page : Page} (b : Browser Chain Page Response) (event : Event Chain Response)
    (next : Browser Chain Page Response) (shows' : Shows script page b) (h : step script b event = some next) :
    Shows script page next := by
  cases event with
  | load chain number status response =>
    simp only [step] at h
    split at h <;> cases h
    rw [Shows, (again_keeps _ _ _).1, (again_keeps _ _ _).2]
    unfold handle
    split
    · exact shows'
    · rw [List.foldl_append, ← shows']
      rfl
  | error chain number =>
    simp only [step] at h
    split at h <;> cases h
    exact shows'
  | timeout chains =>
    simp only [step] at h
    split at h <;> cases h
    rw [Shows, (calls_keep _ _).1, (calls_keep _ _).2.1]
    exact shows'

theorem answered_or_kept {next : Browser Chain Page Response} {event : Event Chain Response}
    (h : step script b event = some next) :
    (next.page = b.page ∧ next.answered = b.answered) ∨
      ∃ chain number response, event = .load chain number 200 response ∧ .request chain number ∈ b.pending ∧
        next.page = script.callback chain b.page response ∧
        next.answered = b.answered ++ [(chain, number, response)] := by
  cases event with
  | load chain number status response =>
    simp only [step] at h
    split at h <;> cases h
    rename_i flying
    rw [(again_keeps _ _ _).1, (again_keeps _ _ _).2]
    unfold handle
    split
    · exact .inl ⟨rfl, rfl⟩
    · rename_i ok
      cases not_not.mp ok
      exact .inr ⟨chain, number, response, rfl, flying, rfl, rfl⟩
  | error chain number =>
    simp only [step] at h
    split at h <;> cases h
    exact .inl ⟨rfl, rfl⟩
  | timeout chains =>
    simp only [step] at h
    split at h <;> cases h
    exact .inl ⟨(calls_keep _ _).1, (calls_keep _ _).2.1⟩

theorem sent_calls (chains : List Chain) (b : Browser Chain Page Response) (chain : Chain) :
    b.sent chain ≤ (chains.foldl getJSON b).sent chain := by
  induction chains generalizing b with
  | nil => exact Nat.le_refl _
  | cons first rest ih =>
    refine Nat.le_trans ?_ (ih (getJSON b first))
    by_cases same : chain = first
    · subst same
      simp [getJSON]
    · simp [getJSON, same]

theorem sent_step {next : Browser Chain Page Response} {event : Event Chain Response}
    (h : step script b event = some next) (chain : Chain) : b.sent chain ≤ next.sent chain := by
  cases event with
  | load other number status response =>
    simp only [step] at h
    split at h <;> cases h
    unfold again handle
    split <;> split <;> exact Nat.le_refl _
  | error other number =>
    simp only [step] at h
    split at h <;> cases h
    exact Nat.le_refl _
  | timeout chains =>
    simp only [step] at h
    split at h <;> cases h
    exact sent_calls chains { b with pending := b.pending.erase (.timeout chains) } chain

theorem goes_on_step (repeats : 0 < script.ival chain) (b : Browser Chain Page Response) (event : Event Chain Response)
    (next : Browser Chain Page Response) (on : chain ∉ b.ended) (delivered : ∀ number, event ≠ .error chain number)
    (h : step script b event = some next) : chain ∉ next.ended := by
  cases event with
  | load other number status response =>
    simp only [step] at h
    split at h <;> cases h
    have kept : (handle script { b with pending := b.pending.erase (.request other number) } other number status
        response).ended = b.ended := by
      unfold handle
      split <;> rfl
    unfold again
    split
    · rw [kept]
      exact on
    · rename_i once
      rw [kept]
      intro member
      rcases List.mem_append.mp member with before | last
      · exact on before
      · cases List.mem_singleton.mp last
        exact once repeats
  | error other number =>
    simp only [step] at h
    split at h <;> cases h
    intro member
    rcases List.mem_append.mp member with before | last
    · exact on before
    · cases List.mem_singleton.mp last
      exact delivered number rfl
  | timeout chains =>
    simp only [step] at h
    split at h <;> cases h
    rw [(calls_keep _ _).2.2]
    exact on

theorem InStep.onloadWindow (page : Page) (start : List (List Chain)) :
    InStep start.flatten [] (onloadWindow page start : Browser Chain Page Response) where
  balance chain := by
    simp [Polling.onloadWindow, waiting, Pending.chains, List.count_flatten, Function.comp_def]
  last chain number flying := by simp [Polling.onloadWindow] at flying
  known answer member := absurd member List.not_mem_nil
  earlier answer member := absurd member List.not_mem_nil
  ordered := List.Pairwise.nil

/-- Polling never overtakes itself: in every run of a page a chain has at most one request or timeout to come, and just
    one as long as no request of the chain has failed on the network; its answers reach the page in the order of its
    requests, and the page is what they have made of it. -/
theorem polls_in_order (script : Script Chain Page Response) (page : Page) (start : List (List Chain))
    (distinct : start.flatten.Nodup) (events : List (Event Chain Response)) (b : Browser Chain Page Response)
    (run : exec (step script) (onloadWindow page start) events = some b) :
    (∀ chain, waiting chain b.pending ≤ 1 ∧ (chain ∈ start.flatten → 0 < script.ival chain →
      (∀ number, .error chain number ∉ events) → waiting chain b.pending = 1)) ∧
    (b.answered.Pairwise fun first later => first.1 = later.1 → first.2.1 < later.2.1) ∧
    Shows script page b := by
  have inStep : InStep start.flatten [] b := exec_invariant (inStep_step distinct) (.onloadWindow page start) run
  have began : Shows script page (onloadWindow page start) := rfl
  have shown : Shows script page b := exec_invariant shows_step began run
  refine ⟨fun chain => ?_, inStep.ordered, shown⟩
  have balance := inStep.balance chain
  rw [List.count_nil] at balance
  constructor
  · have one := List.nodup_iff_count_le_one.mp distinct chain
    omega
  · intro started repeats delivered
    have meets : Meets (step script) (fun _ event => ∀ number, event ≠ .error chain number) (onloadWindow page start)
        events := by
      apply meets_of_forall
      rintro event member number rfl
      exact delivered number member
    have on : chain ∉ b.ended := meets_invariant (goes_on_step repeats) List.not_mem_nil meets run
    rw [List.count_eq_zero_of_not_mem on, List.count_eq_one_of_mem distinct started] at balance
    exact balance

end Steps

inductive Dashboard where
  | utilisation
  | utilisationGraph
  | systemStats
  | clusterInfo
  deriving DecidableEq, Repr

def interval : Int := 1000

def Dashboard.start : List (List Dashboard) := [[.utilisation, .utilisationGraph], [.systemStats], [.clusterInfo]]

def Dashboard.listing : Script Dashboard (List (Dashboard × Nat)) Nat :=
  ⟨fun chain page response => page ++ [(chain, response)], fun _ => interval⟩

def Dashboard.afterwards : List (Event Dashboard Nat) :=
  [.timeout [.utilisation, .utilisationGraph], .timeout [.systemStats], .load .utilisation 0 200 7,
    .error .systemStats 0, .load .utilisationGraph 0 404 0, .timeout [.utilisation], .load .utilisation 1 200 8]

theorem dashboard_polls_in_order : ∃ b,
    exec (step Dashboard.listing) (onloadWindow [] Dashboard.start) Dashboard.afterwards = some b ∧
      b.page = [(.utilisation, 7), (.utilisation, 8)] ∧
      b.pending = [.timeout [.clusterInfo], .timeout [.utilisationGraph], .timeout [.utilisation]] ∧
      waiting .utilisation b.pending = 1 ∧ waiting .systemStats b.pending ≤ 1 := by
  have ran : (exec (step Dashboard.listing) (onloadWindow [] Dashboard.start) Dashboard.afterwards).map
      (fun b => (b.page, b.pending)) = some ([(.utilisation, 7), (.utilisation, 8)],
        [.timeout [.clusterInfo], .timeout [.utilisationGraph], .timeout [.utilisation]]) := by decide +kernel
  obtain ⟨b, run, same⟩ := Option.map_eq_some_iff.mp ran
  obtain ⟨page, pending⟩ := Prod.mk.inj same
  have chains := (polls_in_order Dashboard.listing [] Dashboard.start (by decide) Dashboard.afterwards b run).1
  exact ⟨b, run, page, pending, (chains .utilisation).2 (by decide) (by decide) (by simp [Dashboard.afterwards]),
    (chains .systemStats).1⟩

section Stats

open StatsPage

variable {Data : Type}

def statsScript : Script Unit StatsPage.Page (Option (List (Stat Data))) := ⟨fun _ => renderStats, fun _ => interval⟩

def statsPage : StatsPage.Page := ⟨[], 0, List.nodup_nil, fun _ member => absurd member List.not_mem_nil⟩

def lastNames (responses : List (Option (List (Stat Data)))) : List String :=
  ((responses.filterMap id).getLast?.getD []).map Stat.name

theorem renderStats_ids (page : StatsPage.Page) (stats : List (Stat Data)) :
    ((renderStats page (some stats)).children.map Canvas.id).Perm (stats.map Stat.name) := by
  obtain ⟨made, found⟩ := run_matches page stats
  have swept : (renderStats page (some stats)).children = kept page (Rendering.run page stats) ++ made := found.sweep
  apply List.perm_iff_count.mpr
  intro name
  rw [count_ids, swept, withId_append, List.length_append, found.kept_withId, found.counted, List.length_take]
  omega

theorem renderStats_last (responses : List (Option (List (Stat Data)))) :
    ((responses.foldl renderStats statsPage).children.map Canvas.id).Perm (lastNames responses) := by
  induction responses using List.reverseRecOn with
  | nil => exact List.Perm.refl _
  | append_singleton earlier last ih =>
    rw [List.foldl_append, List.foldl_cons, List.foldl_nil]
    cases last with
    | none => simpa [lastNames, renderStats] using ih
    | some stats => simpa [lastNames] using renderStats_ids _ stats

/-- In every run of the statistics page its canvases are those of the last array it was given, whatever was lost on the
    network, was no success or was no array. -/
theorem stats_page_shows_last (events : List (Event Unit (Option (List (Stat Data)))))
    (b : Browser Unit StatsPage.Page (Option (List (Stat Data))))
    (run : exec (step statsScript) (onloadWindow statsPage [[()]]) events = some b) :
    (b.page.children.map Canvas.id).Perm (lastNames (b.answered.map fun answer => answer.2.2)) := by
  have began : Shows statsScript statsPage (onloadWindow statsPage [[()]] :
      Browser Unit StatsPage.Page (Option (List (Stat Data)))) := rfl
  have shown : Shows statsScript statsPage b := exec_invariant shows_step began run
  have page : b.page = (b.answered.map fun answer => answer.2.2).foldl renderStats statsPage := by
    rw [List.foldl_map]
    exact shown
  rw [page]
  exact renderStats_last _

def statsResponses : List (Event Unit (Option (List (Stat Nat)))) :=
  [.timeout [()], .load () 0 200 (some [⟨"queue", 1⟩, ⟨"data-store", 2⟩]), .timeout [()], .load () 1 200 none,
    .timeout [()], .load () 2 500 none, .timeout [()], .load () 3 200 (some [⟨"producer", 3⟩, ⟨"queue", 4⟩])]

theorem stats_page_shows_producer : ∃ b, exec (step statsScript) (onloadWindow statsPage [[()]]) statsResponses = some b ∧
    lastNames (b.answered.map fun answer => answer.2.2) = ["producer", "queue"] ∧
    (b.page.children.map Canvas.id).Perm (lastNames (b.answered.map fun answer => answer.2.2)) := by
  have ran : (exec (step statsScript) (onloadWindow statsPage [[()]]) statsResponses).map
      (fun b => lastNames (b.answered.map fun answer => answer.2.2)) = some ["producer", "queue"] := by decide +kernel
  obtain ⟨b, run, last⟩ := Option.map_eq_some_iff.mp ran
  exact ⟨b, run, last, stats_page_shows_last statsResponses b run⟩

end Stats

end Polling
