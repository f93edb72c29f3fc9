import Demonstrator.Transition.Runs

namespace Averages

open Transition

inductive Component where
  | producer
  | processor
  deriving DecidableEq, Repr

def Component.failed (component : Component) (message : Option String) : String :=
  let cause := message.getD "NullPointerException"
  match component with
  | .producer => "Failed to produce sample(s)! Cause: " ++ cause
  | .processor => "Failed to process sample(s)! Cause: " ++ cause

inductive Position where
  | submitted
  | test
  | counting
  | reading (count : Int64)
  | sleeping
  | ended
  deriving DecidableEq, Repr

/-- The averaging thread. `now` is its last reading of the clock, `slept` is set when a sleep has been completed
    since then, and `divided` when an average has been calculated. -/
structure Averager where
  position : Position
  interrupted : Bool
  oldTime : Int64
  average : Float
  info : List String
  now : Int64
  slept : Bool
  divided : Bool
  deriving DecidableEq

def Averager.initial (now : Int64) : Averager := ⟨.submitted, false, 0, 0, [], now, false, false⟩

inductive Action where
  | start (time : Int64)
  | test
  | countReturns (count : Int64)
  | countThrows (message : Option String)
  | read (time : Int64)
  | sleepReturns
  | sleepThrows
  | interrupt

/-- What the clock may show: it does not go back, and a completed sleep moves it on. -/
def Averager.Shows (s : Averager) (time : Int64) : Prop := s.now ≤ time ∧ (s.slept = true → s.now < time)

instance (s : Averager) (time : Int64) : Decidable (s.Shows time) := inferInstanceAs (Decidable (_ ∧ _))

def step (component : Component) (s : Averager) : Action → Option Averager
  | .start time =>
    if s.position = .submitted ∧ s.Shows time then
      some { s with position := .test, oldTime := time, now := time, slept := false }
    else none
  | .test =>
    if s.position = .test then some { s with position := if s.interrupted then .ended else .counting } else none
  | .countReturns count => if s.position = .counting then some { s with position := .reading count } else none
  | .countThrows message =>
    if s.position = .counting then
      some { s with position := .test, info := s.info ++ [component.failed message] }
    else none
  | .read time =>
    match s.position with
    | .reading count =>
      if s.Shows time then
        some { s with
          position := .sleeping
          average := (1000.0 * Float.ofInt count.toInt) / Float.ofInt (time - s.oldTime).toInt
          oldTime := time
          now := time
          slept := false
          divided := true }
      else none
    | _ => none
  | .sleepReturns =>
    if s.position = .sleeping ∧ s.interrupted = false then some { s with position := .test, slept := true } else none
  -- the exception clears the flag, and the handler sets it again
  | .sleepThrows => if s.position = .sleeping ∧ s.interrupted = true then some { s with position := .test } else none
  | .interrupt => some { s with interrupted := true }

def DividesByElapsed (s : Averager) (action : Action) (_ : Averager) : Prop :=
  match action with
  | .read time => time - s.oldTime ≠ 0
  | _ => True

/-- The clock has moved on since the start of the thread when the first average is calculated. -/
def FirstElapsed (s : Averager) : Action → Prop
  | .read time => ∀ count, s.position = .reading count → s.divided = false → time ≠ s.oldTime
  | _ => True

structure Paced (s : Averager) : Prop where
  current : s.position ≠ .submitted → s.now = s.oldTime
  submitted : s.position = .submitted → s.divided = false
  sleeping : s.position = .sleeping → s.divided = true
  slept : s.slept = true → s.divided = true
  counting : s.divided = true → s.position = .counting → s.slept = true
  reading : ∀ count, s.divided = true → s.position = .reading count → s.slept = true
  test : s.divided = true → s.position = .test → s.slept = true ∨ s.interrupted = true

theorem paced_initial (now : Int64) : Paced (.initial now) := by
  constructor <;> simp [Averager.initial]

theorem paced_step (component : Component) (s : Averager) (action : Action) (t : Averager) (paced : Paced s)
    (h : step component s action = some t) : Paced t := by
  obtain ⟨current, submitted, sleeping, slept, counting, reading, test⟩ := paced
  cases action with
  | start time =>
    simp only [step] at h
    split at h <;> cases h
    rename_i begins
    have fresh : s.divided ≠ true := by simp [submitted begins.1]
    exact ⟨fun _ => rfl, nofun, nofun, nofun, fun _ => nofun, fun _ _ => nofun, fun divided _ => absurd divided fresh⟩
  | test =>
    simp only [step] at h
    split at h
    · rename_i tests
      have same := current (by simp [tests])
      split at h <;> cases h
      · exact ⟨fun _ => same, nofun, nofun, slept, fun _ => nofun, fun _ _ => nofun, fun _ => nofun⟩
      · rename_i goesOn
        have rested : s.divided = true → s.slept = true := fun divided => (test divided tests).resolve_right goesOn
        exact ⟨fun _ => same, nofun, nofun, slept, fun divided _ => rested divided, fun _ _ => nofun, fun _ => nofun⟩
    · cases h
  | countReturns count =>
    simp only [step] at h
    split at h <;> cases h
    rename_i counts
    exact ⟨fun _ => current (by simp [counts]), nofun, nofun, slept, fun _ => nofun,
      fun _ divided _ => counting divided counts, fun _ => nofun⟩
  | countThrows message =>
    simp only [step] at h
    split at h <;> cases h
    rename_i counts
    exact ⟨fun _ => current (by simp [counts]), nofun, nofun, slept, fun _ => nofun, fun _ _ => nofun,
      fun divided _ => .inl (counting divided counts)⟩
  | read time =>
    simp only [step] at h
    split at h
    · split at h <;> cases h
      exact ⟨fun _ => rfl, nofun, fun _ => rfl, nofun, fun _ => nofun, fun _ _ => nofun, fun _ => nofun⟩
    · cases h
  | sleepReturns =>
    simp only [step] at h
    split at h <;> cases h
    rename_i sleeps
    exact ⟨fun _ => current (by simp [sleeps.1]), nofun, nofun, fun _ => sleeping sleeps.1, fun _ => nofun,
      fun _ _ => nofun, fun _ _ => .inl rfl⟩
  | sleepThrows =>
    simp only [step] at h
    split at h <;> cases h
    rename_i sleeps
    exact ⟨fun _ => current (by simp [sleeps.1]), nofun, nofun, slept, fun _ => nofun, fun _ _ => nofun,
      fun _ _ => .inr sleeps.2⟩
  | interrupt =>
    cases h
    exact ⟨current, submitted, sleeping, slept, counting, reading, fun _ _ => .inr rfl⟩

theorem divides_step (component : Component) (s : Averager) (action : Action) (t : Averager) (paced : Paced s)
    (h : step component s action = some t) : DividesByElapsed s action t ↔ FirstElapsed s action := by
  cases action with
  | read time =>
    simp only [step] at h
    split at h
    · rename_i count reading
      split at h
      · rename_i shows
        have current : s.now = s.oldTime := paced.current (by simp [reading])
        rw [DividesByElapsed, ne_eq, Int64.sub_eq_iff_eq_add, Int64.zero_add]
        constructor
        · intro different _ _ _
          exact different
        · intro first same
          cases earlier : s.divided with
          | false => exact first count reading earlier same
          | true =>
            have advanced := shows.2 (paced.reading count earlier reading)
            rw [current, ← same] at advanced
            exact absurd advanced (Int64.lt_irrefl)
      · cases h
    · cases h
  | _ => exact Iff.rfl

theorem firstElapsed_disabled (component : Component) (s : Averager) (action : Action) (paced : Paced s)
    (h : step component s action = none) : FirstElapsed s action := by
  cases action with
  | read time =>
    intro count reading early same
    have current : s.now = s.oldTime := paced.current (by simp [reading])
    have rested : s.slept ≠ true := by
      intro slept
      cases early.symm.trans (paced.slept slept)
    have shows : s.Shows time := by
      refine ⟨?_, fun slept => absurd slept rested⟩
      rw [current, same]
      exact Int64.le_refl _
    simp only [step, reading, if_pos shows] at h
    cases h
  | _ => exact True.intro

/-- Every average of a run is calculated over a time that is not zero just if the first one is. -/
theorem divides_by_elapsed_iff (component : Component) (now : Int64) (actions : List Action) :
    Along (step component) DividesByElapsed (.initial now) actions ↔
      Meets (step component) FirstElapsed (.initial now) actions :=
  along_iff_meets (paced_step component) (divides_step component) (firstElapsed_disabled component)
    (paced_initial now) actions

def sameMillisecond : List Action := [.start 1000, .test, .countReturns 0, .read 1000]

theorem divides_by_zero :
    (∀ component, ∃ s, exec (step component) (.initial 0) sameMillisecond = some s ∧ s.average.isNaN = true) ∧
      ∀ component, ¬ Along (step component) DividesByElapsed (.initial 0) sameMillisecond := by
  constructor
  · intro component
    refine ⟨_, rfl, ?_⟩
    decide +kernel
  · intro component along
    have divided := (((along _ rfl).2 _ rfl).2 _ rfl).2 _ rfl
    exact divided.1 rfl

end Averages
