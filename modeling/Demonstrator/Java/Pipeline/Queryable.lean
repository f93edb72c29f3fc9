import Demonstrator.Java.Pipeline.Rounds
import Demonstrator.Transition.Runs

namespace Pipeline

open Transition

def Queryable (store : List Result) : Prop :=
  (∀ result ∈ store, result.sample ≠ none) ∧
    ∀ begin' end', ∃ results, findResultsBetween begin' end' store = .ok results

/-- A worker that has started its task and not yet returned from `take` is not interrupted. -/
def TakesUninterrupted (s : System) : Action → Prop
  | .cancel p => ¬ ((s.processor p).task = .running ∧ (s.processor p).worker = .taking)
  | _ => True

theorem findResultsBetween_returns (begin' end' : Int) (store : List Result) :
    (∃ results, findResultsBetween begin' end' store = .ok results) ↔
      ∀ result ∈ store, result.sample ≠ none := by
  induction store with
  | nil => simp [findResultsBetween]
  | cons result later ih =>
    cases sample : result.sample with
    | none => simp [findResultsBetween, sample]
    | some sample' =>
      have head : (∃ results, findResultsBetween begin' end' (result :: later) = .ok results) ↔
          ∃ results, findResultsBetween begin' end' later = .ok results := by
        simp only [findResultsBetween, sample]
        cases findResultsBetween begin' end' later <;> simp [Except.map]
      rw [head, ih]
      simp [sample]

def Processor.Sound (processor : Processor) : Prop :=
  match processor.worker with
  | .taking => processor.interrupted = false
  | .taken sample => sample ≠ none
  | .built result | .checked result => result.sample ≠ none
  | .free | .stored => True

structure Filled (s : System) : Prop where
  store : ∀ result ∈ s.store, result.sample ≠ none
  sound : ∀ p, (s.processor p).Sound

theorem Filled.move {s : System} (filled : Filled s) (p : Nat) (queue : List Sample) {store : List Result}
    {processor : Processor} (stored : ∀ result ∈ store, result.sample ≠ none) (sound : processor.Sound) :
    Filled ⟨queue, store, Function.update s.processor p processor⟩ where
  store := stored
  sound := by
    intro other
    by_cases same : other = p
    · subst same
      simpa using sound
    · simpa [same] using filled.sound other

theorem Processor.Sound.interrupt {processor : Processor} (sound : processor.Sound)
    (elsewhere : processor.worker ≠ .taking) :
    { processor with caller := .idle, task := .cancelled, interrupted := true }.Sound := by
  cases worker : processor.worker with
  | taking => exact absurd worker elsewhere
  | free | stored => simp [Processor.Sound]
  | taken _ | built _ | checked _ =>
    simp only [Processor.Sound, worker] at sound ⊢
    exact sound

theorem filled_step (s : System) (action : Action) (t : System) (filled : Filled s)
    (guarded : TakesUninterrupted s action) (h : step s action = some t) : Filled t := by
  cases step_moves h with
  | submit p | getReturns p | timeout p | cancelSubmitted p | cancelDone p =>
    apply filled.move p s.queue filled.store
    exact filled.sound p
  | start p =>
    apply filled.move p s.queue filled.store
    exact rfl
  | interrupted p taking interrupted =>
    have sound := filled.sound p
    simp [Processor.Sound, taking, interrupted] at sound
  | take p sample queue =>
    apply filled.move p queue filled.store
    simp [Processor.Sound]
  | build p sample taken =>
    have present : sample ≠ none := by simpa [Processor.Sound, taken] using filled.sound p
    apply filled.move p s.queue filled.store
    exact present
  | checkSize p result built =>
    have present : result.sample ≠ none := by simpa [Processor.Sound, built] using filled.sound p
    apply filled.move p s.queue filled.store
    exact present
  | full p | finish p =>
    apply filled.move p s.queue filled.store
    exact True.intro
  | add p result checked =>
    have present : result.sample ≠ none := by simpa [Processor.Sound, checked] using filled.sound p
    have stored : ∀ other ∈ s.store ++ [result], other.sample ≠ none := by
      intro other member
      rcases List.mem_append.mp member with before | new
      · exact filled.store other before
      · cases List.mem_singleton.mp new
        exact present
    apply filled.move p s.queue stored
    exact True.intro
  | cancelRunning p late running =>
    apply filled.move p s.queue filled.store
    exact (filled.sound p).interrupt fun taking => guarded ⟨running, taking⟩
  | clientPut | clientTake => exact ⟨filled.store, filled.sound⟩

theorem Filled.queryable {s : System} (filled : Filled s) : Queryable s.store :=
  ⟨filled.store, fun begin' end' => (findResultsBetween_returns begin' end' s.store).mpr filled.store⟩

/-- The store stays queryable in every run that interrupts no worker in its `take`. -/
theorem store_stays_queryable (actions : List Action) (final : System)
    (uninterrupted : Meets step TakesUninterrupted System.initial actions)
    (run : exec step System.initial actions = some final) : Queryable final.store := by
  have start : Filled System.initial := ⟨by simp [System.initial], fun _ => True.intro⟩
  exact (meets_invariant filled_step start uninterrupted run).queryable

def lateTimeout : List Action :=
  [.clientPut ⟨1, 2, 3⟩, .submit 0, .start 0, .take 0, .timeout 0, .cancel 0, .build 0, .checkSize 0, .add 0,
    .finish 0]

theorem store_stays_queryable_late :
    ∃ final, exec step System.initial lateTimeout = some final ∧ final.store = [⟨10, 1, some ⟨1, 2, 3⟩⟩] ∧
      Queryable final.store := by
  have uninterrupted : Meets step TakesUninterrupted System.initial lateTimeout := by
    apply meets_cons True.intro rfl
    apply meets_cons True.intro rfl
    apply meets_cons True.intro rfl
    apply meets_cons True.intro rfl
    apply meets_cons True.intro rfl
    apply meets_cons _ rfl
    · apply meets_cons True.intro rfl
      apply meets_cons True.intro rfl
      apply meets_cons True.intro rfl
      exact meets_cons True.intro rfl True.intro
    · intro interrupted
      cases (show Worker.taken _ = Worker.taking from interrupted.2)
  exact ⟨_, rfl, rfl, store_stays_queryable lateTimeout _ uninterrupted rfl⟩

def idleTimeout : List Action :=
  [.submit 0, .start 0, .timeout 0, .cancel 0, .take 0, .build 0, .checkSize 0, .add 0, .finish 0]

/-- The null sample is stored, and every later query ends with a `NullPointerException`. -/
theorem idle_timeout_breaks_queries :
    ∃ final, exec step System.initial idleTimeout = some final ∧ final.store = [⟨10, 1, none⟩] ∧
      ¬ Queryable final.store ∧
      ∀ begin' end', findResultsBetween begin' end' final.store = .error .nullPointerException :=
  ⟨_, rfl, rfl, fun queryable => queryable.1 _ (List.mem_singleton.mpr rfl) rfl, fun _ _ => rfl⟩

end Pipeline
