import Demonstrator.Java.Pipeline.Averages
import Mathlib.Logic.Function.Basic

namespace Lifecycle

open Averages (Component)
open Transition

/-- Where the thread of `m_prodExecutor` or `m_processExecutor` is: its round is submitted to `m_executor`, and it is
    in `result.get` while the round runs. -/
inductive Position where
  | absent
  | submitted
  | test
  | reading
  | submitting
  | getting
  | sleeping
  | ended
  deriving DecidableEq, Repr

/-- The loop of one `start`. `swallowed` is set when its `get` has thrown the interrupt away, and `since` counts its
    steps since the executor was shut down. -/
structure Loop where
  position : Position
  interrupted : Bool
  swallowed : Bool
  since : Option Nat
  deriving DecidableEq, Repr

/-- The thread of the dependency manager, in `stop` when it is neither started nor stopped. -/
inductive Control where
  | stopped
  | started
  | cancelled
  | shut
  | awaited
  deriving DecidableEq, Repr

/-- A producer or a processor. `generation` is the number of its starts, `loop` has the loop of each of them, and
    `shutdown` is what `isShutdown` answers for the executor of the last one. -/
structure Instance where
  control : Control
  generation : Nat
  loop : Nat → Loop
  shutdown : Bool
  accepting : Bool

def Loop.absent : Loop := ⟨.absent, false, false, none⟩

def Instance.initial : Instance := ⟨.stopped, 0, fun _ => .absent, false, false⟩

inductive Action where
  | start
  | cancel
  | shutdown
  | awaitTerminated
  | awaitTimeout
  | shutdownNow
  | begin' (k : Nat)
  | test (k : Nat)
  | read (k : Nat) (active : Bool)
  | submit (k : Nat)
  | getReturns (k : Nat)
  | getThrows (k : Nat)
  | sleepReturns (k : Nat)
  | sleepThrows (k : Nat)
  deriving DecidableEq, Repr

def Instance.write (s : Instance) (k : Nat) (loop : Loop) : Instance :=
  { s with loop := Function.update s.loop k loop }

def Loop.go (loop : Loop) (position : Position) : Loop := { loop with position, since := loop.since.map (· + 1) }

def Loop.cancel (loop : Loop) : Loop :=
  match loop.position with
  -- the executor has not begun the task, and drops it
  | .submitted => { loop with position := .ended }
  | .ended => loop
  | _ => { loop with interrupted := true }

def bodyOf : Component → Position
  | .producer => .reading
  | .processor => .submitting

/-- Only the processor tests `m_processExecutor.isShutdown()` beside the interrupt. -/
def Instance.leaves (component : Component) (s : Instance) (k : Nat) : Bool :=
  match component with
  | .producer => (s.loop k).interrupted
  | .processor => (s.loop k).interrupted || s.shutdown

/-- The statements of `start` and `stop` and of the loops they begin and end. A step is disabled while its thread is
    elsewhere or blocked. -/
def step (component : Component) (s : Instance) : Action → Option Instance
  | .start =>
    if s.control = .stopped then
      some
        { s.write (s.generation + 1) ⟨.submitted, false, false, none⟩ with
          control := .started
          generation := s.generation + 1
          shutdown := false
          accepting := true }
    else none
  | .cancel =>
    if s.control = .started then
      some { s.write s.generation (s.loop s.generation).cancel with control := .cancelled }
    else none
  | .shutdown =>
    if s.control = .cancelled then
      some
        { s.write s.generation { s.loop s.generation with since := some 0 } with
          control := .shut
          shutdown := true }
    else none
  | .awaitTerminated =>
    if s.control = .shut ∧ (s.loop s.generation).position = .ended then some { s with control := .awaited } else none
  | .awaitTimeout => if s.control = .shut then some { s with control := .awaited } else none
  | .shutdownNow => if s.control = .awaited then some { s with control := .stopped, accepting := false } else none
  | .begin' k =>
    if (s.loop k).position = .submitted then some (s.write k ((s.loop k).go .test)) else none
  | .test k =>
    if (s.loop k).position = .test then
      some (s.write k ((s.loop k).go (if s.leaves component k then .ended else bodyOf component)))
    else none
  | .read k active =>
    if (s.loop k).position = .reading then
      some (s.write k ((s.loop k).go (if active then .submitting else .sleeping)))
    else none
  | .submit k =>
    -- a RejectedExecutionException is caught in the round
    if (s.loop k).position = .submitting then
      some (s.write k ((s.loop k).go (if s.accepting then .getting else .sleeping)))
    else none
  | .getReturns k =>
    -- also after a TimeoutException or an ExecutionException
    if (s.loop k).position = .getting then some (s.write k ((s.loop k).go .sleeping)) else none
  | .getThrows k =>
    -- the round catches the InterruptedException, which has cleared the flag
    if (s.loop k).position = .getting ∧ (s.loop k).interrupted = true then
      some (s.write k { (s.loop k).go .sleeping with interrupted := false, swallowed := true })
    else none
  | .sleepReturns k =>
    if (s.loop k).position = .sleeping ∧ (s.loop k).interrupted = false then some (s.write k ((s.loop k).go .test))
    else none
  | .sleepThrows k =>
    -- the loop catches it and sets the flag again
    if (s.loop k).position = .sleeping ∧ (s.loop k).interrupted = true then some (s.write k ((s.loop k).go .test))
    else none

inductive Runs (component : Component) (s : Instance) (k : Nat) : Loop → Prop where
  | begin' (submitted : (s.loop k).position = .submitted) : Runs component s k ((s.loop k).go .test)
  | leave (test : (s.loop k).position = .test) (told : s.leaves component k = true) :
      Runs component s k ((s.loop k).go .ended)
  | enter (test : (s.loop k).position = .test) (untold : s.leaves component k = false) :
      Runs component s k ((s.loop k).go (bodyOf component))
  | read (reading : (s.loop k).position = .reading) (position : Position)
      (next : position = .submitting ∨ position = .sleeping) : Runs component s k ((s.loop k).go position)
  | submit (submitting : (s.loop k).position = .submitting) (position : Position)
      (next : position = .getting ∨ position = .sleeping) : Runs component s k ((s.loop k).go position)
  | getReturns (getting : (s.loop k).position = .getting) : Runs component s k ((s.loop k).go .sleeping)
  | getThrows (getting : (s.loop k).position = .getting) (interrupted : (s.loop k).interrupted = true) :
      Runs component s k { (s.loop k).go .sleeping with interrupted := false, swallowed := true }
  | wake (sleeping : (s.loop k).position = .sleeping) : Runs component s k ((s.loop k).go .test)

inductive Moves (component : Component) (s : Instance) : Instance → Prop where
  | start (stopped : s.control = .stopped) : Moves component s
      { s.write (s.generation + 1) ⟨.submitted, false, false, none⟩ with
        control := .started
        generation := s.generation + 1
        shutdown := false
        accepting := true }
  | cancel (started : s.control = .started) : Moves component s
      { s.write s.generation (s.loop s.generation).cancel with control := .cancelled }
  | shutdown (cancelled : s.control = .cancelled) : Moves component s
      { s.write s.generation { s.loop s.generation with since := some 0 } with
        control := .shut
        shutdown := true }
  | await (shut : s.control = .shut) : Moves component s { s with control := .awaited }
  | shutdownNow (awaited : s.control = .awaited) : Moves component s { s with control := .stopped, accepting := false }
  | run (k : Nat) (loop : Loop) (runs : Runs component s k loop) : Moves component s (s.write k loop)

theorem step_moves {component : Component} {s t : Instance} {action : Action} (h : step component s action = some t) :
    Moves component s t := by
  cases action with
  | start =>
    simp only [step] at h
    split at h <;> cases h
    rename_i stopped
    exact .start stopped
  | cancel =>
    simp only [step] at h
    split at h <;> cases h
    rename_i started
    exact .cancel started
  | shutdown =>
    simp only [step] at h
    split at h <;> cases h
    rename_i cancelled
    exact .shutdown cancelled
  | awaitTerminated =>
    simp only [step] at h
    split at h <;> cases h
    rename_i ready
    exact .await ready.1
  | awaitTimeout =>
    simp only [step] at h
    split at h <;> cases h
    rename_i shut
    exact .await shut
  | shutdownNow =>
    simp only [step] at h
    split at h <;> cases h
    rename_i awaited
    exact .shutdownNow awaited
  | begin' k =>
    simp only [step] at h
    split at h <;> cases h
    rename_i submitted
    exact .run k _ (.begin' submitted)
  | test k =>
    simp only [step] at h
    split at h <;> cases h
    rename_i test
    cases told : s.leaves component k with
    | true => exact .run k _ (.leave test told)
    | false => exact .run k _ (.enter test told)
  | read k active =>
    simp only [step] at h
    split at h <;> cases h
    rename_i reading
    cases active with
    | true => exact .run k _ (.read reading _ (.inl rfl))
    | false => exact .run k _ (.read reading _ (.inr rfl))
  | submit k =>
    simp only [step] at h
    split at h <;> cases h
    rename_i submitting
    cases s.accepting with
    | true => exact .run k _ (.submit submitting _ (.inl rfl))
    | false => exact .run k _ (.submit submitting _ (.inr rfl))
  | getReturns k =>
    simp only [step] at h
    split at h <;> cases h
    rename_i getting
    exact .run k _ (.getReturns getting)
  | getThrows k =>
    simp only [step] at h
    split at h <;> cases h
    rename_i thrown
    exact .run k _ (.getThrows thrown.1 thrown.2)
  | sleepReturns k =>
    simp only [step] at h
    split at h <;> cases h
    rename_i woken
    exact .run k _ (.wake woken.1)
  | sleepThrows k =>
    simp only [step] at h
    split at h <;> cases h
    rename_i woken
    exact .run k _ (.wake woken.1)

def Position.rank : Position → Nat
  | .reading => 5
  | .submitting => 4
  | .getting => 3
  | .sleeping => 2
  | .test => 1
  | .absent | .submitted | .ended => 0

def Position.Begun (position : Position) : Prop := position ≠ .absent ∧ position ≠ .submitted

def Signalled (component : Component) (s : Instance) (k : Nat) (loop : Loop) : Prop :=
  match component with
  | .processor => k = s.generation
  | .producer => loop.swallowed = false

structure Sound (component : Component) (s : Instance) (k : Nat) (loop : Loop) : Prop where
  later : s.generation < k → loop = .absent
  fresh : k = s.generation → s.control = .started →
    loop.interrupted = false ∧ loop.swallowed = false ∧ loop.since = none ∧ loop.position ≠ .absent
  told : loop.since.isSome ∨ k = s.generation ∧ s.control = .cancelled →
    loop.position.Begun ∧ (loop.swallowed = true ∨ loop.interrupted = true ∨ loop.position = .ended)
  swallowed : loop.swallowed = true → loop.interrupted = false ∧ (component = .producer → loop.position ≠ .ended)
  shutdown : k = s.generation → loop.since.isSome → s.shutdown = true
  bound : ∀ n, loop.since = some n → Signalled component s k loop → n + loop.position.rank ≤ 5

variable {component : Component} {s : Instance} {k : Nat} {loop : Loop}

theorem Sound.go (sound : Sound component s k loop) (position : Position) (begun : loop.position ≠ .absent)
    (running : loop.position ≠ .ended) (goes : position.Begun)
    (leaves : position = .ended → component = .producer → loop.interrupted = true)
    (nearer : loop.since.isSome → Signalled component s k loop → position.rank < loop.position.rank) :
    Sound component s k (loop.go position) where
  later behind := absurd (congrArg Loop.position (sound.later behind)) begun
  fresh current started := by
    obtain ⟨clear, kept, never, _⟩ := sound.fresh current started
    exact ⟨clear, kept, by simp [Loop.go, never], goes.1⟩
  told request := by
    rw [Loop.go, Option.isSome_map] at request
    obtain ⟨_, reached⟩ := sound.told request
    refine ⟨goes, ?_⟩
    rcases reached with swallowed | interrupted | ended
    · exact .inl swallowed
    · exact .inr (.inl interrupted)
    · exact absurd ended running
  swallowed gone := by
    obtain ⟨clear, _⟩ := sound.swallowed gone
    refine ⟨clear, fun producer ended => ?_⟩
    rw [leaves ended producer] at clear
    cases clear
  shutdown current request := by
    rw [Loop.go, Option.isSome_map] at request
    exact sound.shutdown current request
  bound n steps signalled := by
    simp only [Loop.go, Option.map_eq_some_iff] at steps
    obtain ⟨before, earlier, rfl⟩ := steps
    have signal : Signalled component s k loop := by
      cases component <;> exact signalled
    have left := sound.bound before earlier signal
    have less := nearer (earlier ▸ rfl) signal
    change before + 1 + position.rank ≤ 5
    omega

theorem Sound.leaves (sound : Sound component s k loop) (here : s.loop k = loop) (told : loop.since.isSome)
    (running : loop.position ≠ .ended) (signalled : Signalled component s k loop) : s.leaves component k = true := by
  subst here
  cases component with
  | producer =>
    obtain ⟨_, swallowed | interrupted | ended⟩ := sound.told (.inl told)
    · rw [show (s.loop k).swallowed = false from signalled] at swallowed
      cases swallowed
    · exact interrupted
    · exact absurd ended running
  | processor => simp [Instance.leaves, sound.shutdown signalled told]

theorem Sound.run (sound : Sound component s k (s.loop k)) (runs : Runs component s k loop) :
    Sound component s k loop := by
  cases runs with
  | begin' submitted =>
    refine sound.go .test (by simp [submitted]) (by simp [submitted]) (by simp [Position.Begun]) (by simp) ?_
    intro told
    exact absurd submitted (sound.told (.inl told)).1.2
  | leave test leaving =>
    refine sound.go .ended (by simp [test]) (by simp [test]) (by simp [Position.Begun]) ?_ (by simp [test, Position.rank])
    rintro _ rfl
    exact leaving
  | enter test staying =>
    refine sound.go (bodyOf component) (by simp [test]) (by simp [test]) ?_ ?_ ?_
    · cases component <;> simp [bodyOf, Position.Begun]
    · cases component <;> simp [bodyOf]
    · intro told signalled
      rw [sound.leaves rfl told (by simp [test]) signalled] at staying
      cases staying
  | read reading position next =>
    rcases next with rfl | rfl <;>
      exact sound.go _ (by simp [reading]) (by simp [reading]) (by simp [Position.Begun]) (by simp) (by simp [reading, Position.rank])
  | submit submitting position next =>
    rcases next with rfl | rfl <;>
      exact sound.go _ (by simp [submitting]) (by simp [submitting]) (by simp [Position.Begun]) (by simp)
        (by simp [submitting, Position.rank])
  | getReturns getting =>
    exact sound.go _ (by simp [getting]) (by simp [getting]) (by simp [Position.Begun]) (by simp) (by simp [getting, Position.rank])
  | wake sleeping =>
    exact sound.go _ (by simp [sleeping]) (by simp [sleeping]) (by simp [Position.Begun]) (by simp) (by simp [sleeping, Position.rank])
  | getThrows getting interrupted =>
    have went := sound.go .sleeping (by simp [getting]) (by simp [getting]) (by simp [Position.Begun]) (by simp)
      (by simp [getting, Position.rank])
    refine ⟨?_, ?_, ?_, ?_, went.shutdown, ?_⟩
    · intro behind
      rw [sound.later behind] at getting
      cases getting
    · intro current started
      rw [(sound.fresh current started).1] at interrupted
      cases interrupted
    · exact fun request => ⟨by simp [Loop.go, Position.Begun], .inl rfl⟩
    · exact fun _ => ⟨rfl, fun _ => by simp [Loop.go]⟩
    · intro n steps signalled
      cases component with
      | producer => cases signalled
      | processor => exact went.bound n steps signalled

theorem Position.rank_le (position : Position) : position.rank ≤ 5 := by
  cases position <;> decide

theorem Sound.elsewhere {t : Instance} (sound : Sound component s k loop) (generation : t.generation = s.generation)
    (control : t.control ≠ .started) (shutdown : s.shutdown = true → t.shutdown = true)
    (cancelled : t.control = .cancelled → k ≠ t.generation) : Sound component t k loop where
  later behind := sound.later (generation ▸ behind)
  fresh _ started := absurd started control
  told request := by
    rcases request with told | ⟨current, here⟩
    · exact sound.told (.inl told)
    · exact absurd current (cancelled here)
  swallowed := sound.swallowed
  shutdown current told := shutdown (sound.shutdown (generation ▸ current) told)
  bound n steps signalled := by
    apply sound.bound n steps
    cases component with
    | producer => exact signalled
    | processor => exact signalled.trans generation

theorem Sound.start (sound : Sound component s k (s.loop k)) {t : Instance} (generation : t.generation = s.generation + 1)
    (control : t.control = .started)
    (loop : t.loop = Function.update s.loop (s.generation + 1) ⟨.submitted, false, false, none⟩) :
    Sound component t k (t.loop k) := by
  rw [loop]
  by_cases current : k = s.generation + 1
  · subst current
    rw [Function.update_self]
    refine ⟨fun behind => ?_, fun _ _ => ⟨rfl, rfl, rfl, by simp⟩, fun request => ?_, fun gone => ?_, fun _ told => ?_,
      fun n steps => ?_⟩
    · omega
    · simp [control] at request
    · cases gone
    · cases told
    · cases steps
  · rw [Function.update_of_ne current]
    refine ⟨fun behind => sound.later (by omega), fun here => absurd (here.trans generation) current, fun request => ?_,
      sound.swallowed, fun here => absurd (here.trans generation) current, fun n steps signalled => ?_⟩
    · simp only [control, reduceCtorEq, and_false, or_false] at request
      exact sound.told (.inl request)
    · cases component with
      | producer => exact sound.bound n steps signalled
      | processor => exact absurd (signalled.trans generation) current

theorem Sound.cancel (sound : Sound component s s.generation (s.loop s.generation)) (started : s.control = .started)
    {t : Instance} (generation : t.generation = s.generation) (control : t.control = .cancelled) :
    Sound component t s.generation (s.loop s.generation).cancel := by
  obtain ⟨clear, kept, never, present⟩ := sound.fresh rfl started
  have since : (s.loop s.generation).cancel.since = none := by
    unfold Loop.cancel
    split <;> exact never
  have still : (s.loop s.generation).cancel.swallowed = false := by
    unfold Loop.cancel
    split <;> exact kept
  refine ⟨fun behind => ?_, fun _ running => ?_, fun _ => ?_, fun gone => ?_, fun _ told => ?_, fun n steps => ?_⟩
  · omega
  · rw [control] at running
    cases running
  · unfold Loop.cancel
    split
    · exact ⟨by simp [Position.Begun], .inr (.inr rfl)⟩
    · rename_i ended
      exact ⟨by simp [ended, Position.Begun], .inr (.inr ended)⟩
    · rename_i begun _
      exact ⟨⟨present, begun⟩, .inr (.inl rfl)⟩
  · rw [still] at gone
    cases gone
  · rw [since] at told
    cases told
  · rw [since] at steps
    cases steps

theorem Sound.shut (sound : Sound component s s.generation (s.loop s.generation))
    (cancelled : s.control = .cancelled) {t : Instance} (generation : t.generation = s.generation)
    (control : t.control = .shut) (shutdown : t.shutdown = true) :
    Sound component t s.generation { s.loop s.generation with since := some 0 } := by
  refine ⟨fun behind => ?_, fun _ running => ?_, fun _ => sound.told (.inr ⟨rfl, cancelled⟩), sound.swallowed,
    fun _ _ => shutdown, fun n steps _ => ?_⟩
  · omega
  · rw [control] at running
    cases running
  · cases steps
    rw [Nat.zero_add]
    exact Position.rank_le _

theorem sound_step (s : Instance) (action : Action) (t : Instance) (sound : ∀ k, Sound component s k (s.loop k))
    (h : step component s action = some t) (k : Nat) : Sound component t k (t.loop k) := by
  cases step_moves h with
  | start stopped => exact (sound k).start rfl rfl rfl
  | cancel started =>
    change Sound component _ k (Function.update s.loop s.generation _ k)
    by_cases current : k = s.generation
    · subst current
      rw [Function.update_self]
      exact (sound s.generation).cancel started rfl rfl
    · rw [Function.update_of_ne current]
      exact (sound k).elsewhere rfl (by simp) id (fun _ => current)
  | shutdown cancelled =>
    change Sound component _ k (Function.update s.loop s.generation _ k)
    by_cases current : k = s.generation
    · subst current
      rw [Function.update_self]
      exact (sound s.generation).shut cancelled rfl rfl rfl
    · rw [Function.update_of_ne current]
      exact (sound k).elsewhere rfl (by simp) (fun _ => rfl) (by simp)
  | await shut => exact (sound k).elsewhere rfl (by simp) id (by simp)
  | shutdownNow awaited => exact (sound k).elsewhere rfl (by simp) id (by simp)
  | run j loop runs =>
    change Sound component _ k (Function.update s.loop j loop k)
    by_cases here : k = j
    · subst here
      rw [Function.update_self]
      obtain ⟨later, fresh, told, swallowed, shutdown, bound⟩ := (sound k).run runs
      exact ⟨later, fresh, told, swallowed, shutdown, bound⟩
    · rw [Function.update_of_ne here]
      obtain ⟨later, fresh, told, swallowed, shutdown, bound⟩ := sound k
      exact ⟨later, fresh, told, swallowed, shutdown, bound⟩

theorem Sound.initial : Sound component .initial k (Instance.initial.loop k) := by
  refine ⟨fun _ => rfl, fun _ started => ?_, fun request => ?_, fun gone => ?_, fun _ told => ?_, fun n steps => ?_⟩
  · cases started
  · rcases request with told | ⟨_, cancelled⟩
    · cases told
    · cases cancelled
  · cases gone
  · cases told
  · cases steps

theorem sound_exec {actions : List Action} (run : exec (step component) .initial actions = some s) :
    ∀ k, Sound component s k (s.loop k) :=
  exec_invariant sound_step (fun _ => .initial) run

/-- A loop that has lost its interrupt has lost it for good: only its own `stop` interrupts it. -/
def Deaf (k : Nat) (s : Instance) : Prop := (∀ j, Sound .producer s j (s.loop j)) ∧ (s.loop k).swallowed = true

theorem Runs.swallowed (runs : Runs component s k loop) (deaf : (s.loop k).swallowed = true) :
    loop.swallowed = true := by
  cases runs with
  | getThrows => rfl
  | _ => exact deaf

theorem deaf_step (s : Instance) (action : Action) (t : Instance) (deaf : Deaf k s)
    (h : step .producer s action = some t) : Deaf k t := by
  obtain ⟨sound, lost⟩ := deaf
  refine ⟨sound_step s action t sound h, ?_⟩
  cases step_moves h with
  | start stopped =>
    have known : k ≠ s.generation + 1 := by
      intro current
      rw [(sound k).later (by omega)] at lost
      cases lost
    exact (congrArg Loop.swallowed (Function.update_of_ne known _ _)).trans lost
  | cancel started =>
    have known : k ≠ s.generation := by
      intro current
      rw [((sound k).fresh current started).2.1] at lost
      cases lost
    exact (congrArg Loop.swallowed (Function.update_of_ne known _ _)).trans lost
  | shutdown cancelled =>
    change (Function.update s.loop s.generation _ k).swallowed = true
    by_cases current : k = s.generation
    · subst current
      rw [Function.update_self]
      exact lost
    · rw [Function.update_of_ne current]
      exact lost
  | await | shutdownNow => exact lost
  | run j loop runs =>
    change (Function.update s.loop j loop k).swallowed = true
    by_cases here : k = j
    · subst here
      rw [Function.update_self]
      exact runs.swallowed lost
    · rw [Function.update_of_ne here]
      exact lost

/-- The loop is within its five steps, and it has ended or can take one more of them. -/
structure Ending (component : Component) (s : Instance) (k n : Nat) : Prop where
  within : n + (s.loop k).position.rank ≤ 5
  last : (s.loop k).position.rank = 0 ↔ (s.loop k).position = .ended
  next : (s.loop k).position ≠ .ended →
    ∃ action t, step component s action = some t ∧ (t.loop k).since = some (n + 1)

theorem Sound.ending (sound : Sound component s k (s.loop k)) {n : Nat} (since : (s.loop k).since = some n)
    (signalled : Signalled component s k (s.loop k)) : Ending component s k n := by
  have begun := (sound.told (.inl (since ▸ rfl))).1
  have counted : ∀ loop, loop.since = (s.loop k).since.map (· + 1) → ((s.write k loop).loop k).since = some (n + 1) := by
    intro loop grown
    simp [Instance.write, grown, since]
  refine ⟨sound.bound n since signalled, ?_, fun running => ?_⟩
  · cases here : (s.loop k).position <;> simp_all [Position.rank, Position.Begun]
  · cases here : (s.loop k).position with
    | absent => exact absurd here begun.1
    | submitted => exact absurd here begun.2
    | ended => exact absurd here running
    | test => exact ⟨.test k, _, by simp only [step, here, if_true]; rfl, counted _ rfl⟩
    | reading => exact ⟨.read k true, _, by simp only [step, here, if_true]; rfl, counted _ rfl⟩
    | submitting => exact ⟨.submit k, _, by simp only [step, here, if_true]; rfl, counted _ rfl⟩
    | getting => exact ⟨.getReturns k, _, by simp only [step, here, if_true]; rfl, counted _ rfl⟩
    | sleeping =>
      cases flag : (s.loop k).interrupted with
      | true => exact ⟨.sleepThrows k, _, by simp only [step, here, flag, and_self, if_true]; rfl, counted _ rfl⟩
      | false => exact ⟨.sleepReturns k, _, by simp only [step, here, flag, and_self, if_true]; rfl, counted _ rfl⟩

/-- `stop` ends the loop of a processor: from the shutdown of its executor to the next `start` the loop takes at most
    five more steps, whatever its `get` makes of the interrupt. -/
theorem processor_loop_ends (actions : List Action) (s : Instance)
    (run : exec (step .processor) .initial actions = some s) (n : Nat)
    (since : (s.loop s.generation).since = some n) : Ending .processor s s.generation n :=
  (sound_exec run s.generation).ending since rfl

def stopsBeforeGet : List Action :=
  [.start, .begin' 1, .test 1, .cancel, .shutdown, .submit 1, .getThrows 1, .sleepReturns 1, .test 1]

theorem stopped_processor_ends : ∃ s, exec (step .processor) .initial stopsBeforeGet = some s ∧
    (s.loop s.generation).since = some 4 ∧ (s.loop s.generation).position = .ended :=
  ⟨_, rfl, rfl, (processor_loop_ends stopsBeforeGet _ rfl 4 rfl).last.mp rfl⟩

/-- `stop` ends the loop of a producer just if its `get` has not thrown the interrupt away. Then it takes at most five
    more steps; otherwise it goes on for ever, past the `stop` and beside the loops of all later starts. -/
theorem producer_loop_ends_iff (actions : List Action) (s : Instance)
    (run : exec (step .producer) .initial actions = some s) (k n : Nat) (since : (s.loop k).since = some n) :
    ((s.loop k).swallowed = false → Ending .producer s k n) ∧
      ((s.loop k).swallowed = true → ∀ more t, exec (step .producer) s more = some t →
        (t.loop k).position ≠ .ended ∧ (t.generation = k → step .producer t .awaitTerminated = none)) := by
  constructor
  · exact (sound_exec run k).ending since
  · intro lost more t later
    have deaf : Deaf k t := exec_invariant deaf_step ⟨sound_exec run, lost⟩ later
    have running : (t.loop k).position ≠ .ended := ((deaf.1 k).swallowed deaf.2).2 rfl
    refine ⟨running, ?_⟩
    rintro rfl
    simp [step, running]

def restartsInGet : List Action :=
  [.start, .begin' 1, .test 1, .read 1 true, .submit 1, .cancel, .getThrows 1, .shutdown, .awaitTimeout,
    .shutdownNow, .start, .begin' 2, .test 2, .read 2 true, .submit 2, .sleepReturns 1, .test 1, .read 1 true,
    .submit 1]

theorem restarted_producer_doubles : ∃ s, exec (step .producer) .initial restartsInGet = some s ∧
    (s.loop 1).position = .getting ∧ (s.loop 2).position = .getting ∧
    ∀ more t, exec (step .producer) s more = some t → (t.loop 1).position ≠ .ended := by
  refine ⟨_, rfl, rfl, rfl, fun more t later => ?_⟩
  exact ((producer_loop_ends_iff restartsInGet _ rfl 1 4 rfl).2 rfl more t later).1

end Lifecycle
