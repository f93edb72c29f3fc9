import Demonstrator.Java.Servlet.Parameters
import Demonstrator.Transition.Runs
import Mathlib.Logic.Function.Basic

namespace Servlet.ProductionRate

open Transition

/-- A call in progress. `addProducer` has appended its producer, and then also read the rate; a POST
    of `/utilisation` has set the rate, and then goes through its snapshot of the producers. -/
inductive Call where
  | appended (producer : Nat)
  | holding (producer : Nat) (newRate : Int32)
  | posted (value : Int32)
  | delivering (value : Int32) (remaining : List Nat)
  deriving DecidableEq, Repr

def Call.held : Call → Option Int32
  | .appended _ | .delivering _ [] => none
  | .holding _ newRate => some newRate
  | .posted value | .delivering value (_ :: _) => some value

def Call.recipient : Call → Option Nat
  | .appended _ | .posted _ | .delivering _ [] => none
  | .holding producer _ | .delivering _ (producer :: _) => some producer

def Call.Reaches (producer : Nat) : Call → Prop
  | .appended added | .holding added _ => added = producer
  | .posted _ => True
  | .delivering _ remaining => producer ∈ remaining

/-- `m_producers`, `m_productionRate`, the rate each producer was last given, and the calls. -/
structure State where
  producers : List Nat
  productionRate : Int32
  given : Nat → Option Int32
  calls : Nat → Option Call

def State.initial : State := ⟨[], 5, fun _ => none, fun _ => none⟩

/-- The two calls of `setSampleRate` at a producer, which may be remote ones: both return, or one of them throws. A
    rate may have arrived although `p.setSampleRate` throws. -/
inductive Remote where
  | returns
  | maxThrows
  | setThrows (arrived : Bool)
  deriving DecidableEq, Repr

def Remote.arrives : Remote → Bool
  | .returns => true
  | .maxThrows => false
  | .setThrows arrived => arrived

inductive Action where
  | addProducer (call : Nat) (producer : Nat)
  | removeProducer (producer : Nat)
  | post (call : Nat) (parameters : ParameterValues)
  | proceed (call : Nat)
  | setSampleRate (call : Nat) (remote : Remote)

/-- The arithmetic of `setSampleRate` stays a parameter: `rateOf p newRate` is the rate computed from
    the maximum of the producer, in doubles. -/
def State.setSampleRate (rateOf : Nat → Int32 → Int32) (s : State) (producer : Nat) (newRate : Int32)
    (remote : Remote) : State :=
  if remote.arrives then { s with given := Function.update s.given producer (some (rateOf producer newRate)) }
  -- the exception is caught and logged
  else s

def State.setCall (s : State) (call : Nat) (next : Option Call) : State :=
  { s with calls := Function.update s.calls call next }

def step (rateOf : Nat → Int32 → Int32) (s : State) : Action → Option State
  | .addProducer call producer =>
    if s.calls call = none then
      some ({ s with producers := s.producers ++ [producer] }.setCall call (some (.appended producer)))
    else none
  | .removeProducer producer => some { s with producers := s.producers.erase producer }
  | .post call parameters =>
    if s.calls call = none then
      match utilisationValue parameters with
      | none => some s
      | some value => some ({ s with productionRate := value }.setCall call (some (.posted value)))
    else none
  | .proceed call =>
    match s.calls call with
    | none => none
    | some (.appended producer) => some (s.setCall call (some (.holding producer s.productionRate)))
    -- the iterator of a CopyOnWriteArrayList goes through the list as it is now
    | some (.posted value) => some (s.setCall call (some (.delivering value s.producers)))
    | some (.delivering _ []) => some (s.setCall call none)
    | some (.holding _ _) | some (.delivering _ (_ :: _)) => none
  | .setSampleRate call remote =>
    match s.calls call with
    | some (.holding producer newRate) => some ((s.setSampleRate rateOf producer newRate remote).setCall call none)
    | some (.delivering value (producer :: remaining)) =>
      some ((s.setSampleRate rateOf producer value remote).setCall call (some (.delivering value remaining)))
    | _ => none

def RatesAgree (rateOf : Nat → Int32 → Int32) (s : State) : Prop :=
  (∀ call, s.calls call = none) →
    ∀ producer ∈ s.producers, s.given producer = some (rateOf producer s.productionRate)

/-- A rate is set only when no call has another rate to hand out, and what is handed out to a registered producer
    arrives there. -/
def HandedOut (s : State) : Action → Prop
  | .post _ parameters => ∀ value, utilisationValue parameters = some value →
      ∀ call pending newRate, s.calls call = some pending → pending.held = some newRate → newRate = value
  | .setSampleRate call remote => ∀ pending producer, s.calls call = some pending →
      pending.recipient = some producer → producer ∈ s.producers → remote.arrives = true
  | _ => True

structure Covered (rateOf : Nat → Int32 → Int32) (s : State) : Prop where
  current : ∀ call pending newRate,
    s.calls call = some pending → pending.held = some newRate → newRate = s.productionRate
  reached : ∀ producer ∈ s.producers, s.given producer = some (rateOf producer s.productionRate) ∨
    ∃ call pending, s.calls call = some pending ∧ pending.Reaches producer

section Steps

variable {rateOf : Nat → Int32 → Int32} {s : State}

theorem Covered.proceed (covered : Covered rateOf s) {call : Nat} {pending : Call} (next : Option Call)
    (given : Nat → Option Int32) (active : s.calls call = some pending)
    (holds : ∀ later newRate, next = some later → later.held = some newRate → newRate = s.productionRate)
    (served : ∀ producer ∈ s.producers, pending.Reaches producer →
      given producer = some (rateOf producer s.productionRate) ∨
        ∃ later, next = some later ∧ later.Reaches producer)
    (stable : ∀ producer, s.given producer = some (rateOf producer s.productionRate) →
      given producer = some (rateOf producer s.productionRate)) :
    Covered rateOf { s with given, calls := Function.update s.calls call next } where
  current := by
    intro other later newRate found held
    by_cases same : other = call
    · subst same
      simp only [Function.update_self] at found
      exact holds later newRate found held
    · simp only [Function.update_of_ne same] at found
      exact covered.current other later newRate found held
  reached := by
    intro producer member
    rcases covered.reached producer member with done | ⟨other, reaching, found, reaches⟩
    · exact .inl (stable producer done)
    · by_cases same : other = call
      · subst same
        cases found.symm.trans active
        rcases served producer member reaches with done | ⟨later, rfl, still⟩
        · exact .inl done
        · exact .inr ⟨other, later, Function.update_self .., still⟩
      · exact .inr ⟨other, reaching, (Function.update_of_ne same ..).trans found, reaches⟩

theorem setSampleRate_kept (s : State) (served producer : Nat) (remote : Remote)
    (done : s.given producer = some (rateOf producer s.productionRate)) :
    (s.setSampleRate rateOf served s.productionRate remote).given producer =
      some (rateOf producer s.productionRate) := by
  unfold State.setSampleRate
  split
  · by_cases same : producer = served
    · subst same
      exact Function.update_self ..
    · exact (Function.update_of_ne same ..).trans done
  · exact done

theorem setSampleRate_given (s : State) (producer : Nat) {remote : Remote} (arrives : remote.arrives = true) :
    (s.setSampleRate rateOf producer s.productionRate remote).given producer =
      some (rateOf producer s.productionRate) := by
  rw [State.setSampleRate, if_pos arrives]
  exact Function.update_self ..

theorem setSampleRate_setCall (s : State) (producer : Nat) (newRate : Int32) (remote : Remote) (call : Nat)
    (next : Option Call) :
    (s.setSampleRate rateOf producer newRate remote).setCall call next =
      { s with
        given := (s.setSampleRate rateOf producer newRate remote).given
        calls := Function.update s.calls call next } := by
  unfold State.setSampleRate
  split <;> rfl

theorem held_delivering {value newRate : Int32} {remaining : List Nat}
    (held : (Call.delivering value remaining).held = some newRate) : newRate = value := by
  cases remaining with
  | nil => cases held
  | cons _ _ =>
    cases held
    rfl

theorem covered_proceed {t : State} {call : Nat} (covered : Covered rateOf s)
    (h : step rateOf s (.proceed call) = some t) : Covered rateOf t := by
  simp only [step] at h
  split at h
  · cases h
  · rename_i producer active
    cases h
    apply covered.proceed _ _ active
    · intro later newRate next held
      cases next
      cases held
      rfl
    · intro other _ reaches
      exact .inr ⟨_, rfl, reaches⟩
    · exact fun _ done => done
  · rename_i value active
    cases h
    apply covered.proceed _ _ active
    · intro later newRate next held
      cases next
      have same := covered.current call _ _ active rfl
      exact (held_delivering held).trans same
    · intro other member _
      exact .inr ⟨_, rfl, member⟩
    · exact fun _ done => done
  · rename_i value active
    cases h
    apply covered.proceed _ _ active
    · simp
    · intro other _ reaches
      exact absurd reaches (by simp [Call.Reaches])
    · exact fun _ done => done
  · cases h
  · cases h

theorem covered_setSampleRate {t : State} {call : Nat} {remote : Remote} (covered : Covered rateOf s)
    (handedOut : HandedOut s (.setSampleRate call remote))
    (h : step rateOf s (.setSampleRate call remote) = some t) : Covered rateOf t := by
  simp only [step] at h
  split at h
  · rename_i producer newRate active
    cases h
    cases covered.current call _ _ active rfl
    rw [setSampleRate_setCall]
    apply covered.proceed _ _ active
    · simp
    · intro other registered reaches
      cases reaches
      exact .inl (setSampleRate_given s producer (handedOut _ producer active rfl registered))
    · intro other done
      exact setSampleRate_kept s producer other remote done
  · rename_i value producer remaining active
    cases h
    cases covered.current call _ _ active rfl
    rw [setSampleRate_setCall]
    apply covered.proceed _ _ active
    · intro later newRate next held
      cases next
      exact held_delivering held
    · intro other registered reaches
      rcases List.mem_cons.mp reaches with rfl | later
      · exact .inl (setSampleRate_given s other (handedOut _ other active rfl registered))
      · exact .inr ⟨_, rfl, later⟩
    · intro other done
      exact setSampleRate_kept s producer other remote done
  · cases h

theorem covered_addProducer (covered : Covered rateOf s) {call : Nat} (idle : s.calls call = none) (added : Nat) :
    Covered rateOf
      ({ s with producers := s.producers ++ [added] }.setCall call (some (.appended added))) where
  current := by
    intro other pending newRate found held
    by_cases same : other = call
    · subst same
      simp only [State.setCall, Function.update_self, Option.some.injEq] at found
      subst found
      cases held
    · simp only [State.setCall, Function.update_of_ne same] at found
      exact covered.current other pending newRate found held
  reached := by
    intro producer member
    rcases List.mem_append.mp member with before | new
    · rcases covered.reached producer before with done | ⟨other, pending, found, reaches⟩
      · exact .inl done
      · have different : other ≠ call := by
          intro same
          subst same
          cases idle.symm.trans found
        exact .inr ⟨other, pending, (Function.update_of_ne different ..).trans found, reaches⟩
    · exact .inr ⟨call, .appended added, Function.update_self .., (List.mem_singleton.mp new).symm⟩

theorem covered_post {value : Int32} {call : Nat}
    (handedOut : ∀ other pending newRate, s.calls other = some pending → pending.held = some newRate →
      newRate = value) :
    Covered rateOf ({ s with productionRate := value }.setCall call (some (.posted value))) where
  current := by
    intro other pending newRate found held
    by_cases same : other = call
    · subst same
      simp only [State.setCall, Function.update_self, Option.some.injEq] at found
      subst found
      cases held
      rfl
    · simp only [State.setCall, Function.update_of_ne same] at found
      exact handedOut other pending newRate found held
  reached := fun _ _ => .inr ⟨call, .posted value, Function.update_self .., True.intro⟩

theorem covered_step (s : State) (action : Action) (t : State) (covered : Covered rateOf s)
    (guarded : HandedOut s action) (h : step rateOf s action = some t) : Covered rateOf t := by
  cases action with
  | addProducer call producer =>
    simp only [step] at h
    split at h
    · rename_i idle
      cases h
      exact covered_addProducer covered idle producer
    · cases h
  | removeProducer producer =>
    cases h
    exact ⟨covered.current, fun other member => covered.reached other (List.mem_of_mem_erase member)⟩
  | post call parameters =>
    simp only [step] at h
    split at h
    · split at h
      · cases h
        exact covered
      · rename_i value accepted
        cases h
        exact covered_post (guarded value accepted)
    · cases h
  | proceed call => exact covered_proceed covered h
  | setSampleRate call remote => exact covered_setSampleRate covered guarded h

end Steps

/-- The rates agree at the end of every run in which a rate is set only when no call has another
    rate to hand out, and none is lost on its way to a registered producer. -/
theorem production_rates_agree (rateOf : Nat → Int32 → Int32) (actions : List Action) (final : State)
    (handedOut : Meets (step rateOf) HandedOut State.initial actions)
    (run : exec (step rateOf) State.initial actions = some final) : RatesAgree rateOf final := by
  have start : Covered rateOf State.initial := ⟨by simp [State.initial], by simp [State.initial]⟩
  have covered := meets_invariant covered_step start handedOut run
  intro quiet producer member
  rcases covered.reached producer member with done | ⟨call, pending, found, _⟩
  · exact done
  · cases (quiet call).symm.trans found

/-- A producer arrives during a request, and another one is removed before its turn, which then throws. -/
def arrivalDuringPost : List Action :=
  [.addProducer 2 3, .proceed 2, .setSampleRate 2 (.setThrows true), .post 0 (some ["40"]), .addProducer 1 7, .proceed 0,
    .removeProducer 3, .proceed 1, .setSampleRate 0 .maxThrows, .setSampleRate 1 .returns, .setSampleRate 0 .returns,
    .proceed 0]

theorem production_rates_agree_arrival :
    ∃ final, exec (step fun _ newRate => newRate) State.initial arrivalDuringPost = some final ∧
      (∀ call, final.calls call = none) ∧ final.producers = [7] ∧ final.productionRate = 40 ∧
      RatesAgree (fun _ newRate => newRate) final := by
  have handedOut : Meets (step fun _ newRate => newRate) HandedOut State.initial arrivalDuringPost := by
    apply meets_cons True.intro rfl
    apply meets_cons True.intro rfl
    apply meets_cons (fun _ _ _ _ _ => rfl) rfl
    apply meets_cons _ rfl
    · apply meets_cons True.intro rfl
      apply meets_cons True.intro rfl
      apply meets_cons True.intro rfl
      apply meets_cons True.intro rfl
      apply meets_cons _ rfl
      · apply meets_cons (fun _ _ _ _ _ => rfl) rfl
        apply meets_cons (fun _ _ _ _ _ => rfl) rfl
        exact meets_cons True.intro rfl True.intro
      · intro pending producer found recipient registered
        cases found
        cases recipient
        exact absurd registered (by decide)
    · intro _ _ call pending newRate found held
      by_cases second : call = 2
      · subst second
        cases found
      · simp [State.setCall, State.setSampleRate, State.initial, Remote.arrives] at found
  have agree := production_rates_agree (fun _ newRate => newRate) arrivalDuringPost _ handedOut rfl
  refine ⟨_, rfl, ?_, rfl, rfl, agree⟩
  intro call
  by_cases first : call = 0 <;> by_cases second : call = 1 <;> by_cases third : call = 2 <;>
    simp [State.setCall, State.setSampleRate, State.initial, Remote.arrives, first, second, third]

def postDuringArrival : List Action :=
  [.addProducer 1 7, .proceed 1, .post 0 (some ["40"]), .proceed 0, .setSampleRate 0 .returns, .proceed 0,
    .setSampleRate 1 .returns]

def overlappingPosts : List Action :=
  [.addProducer 1 7, .proceed 1, .setSampleRate 1 .returns, .post 0 (some ["40"]), .post 2 (some ["60"]),
    .proceed 2, .setSampleRate 2 .returns, .proceed 2, .proceed 0, .setSampleRate 0 .returns, .proceed 0]

def unreachable : List Action :=
  [.addProducer 1 7, .proceed 1, .setSampleRate 1 .returns, .post 0 (some ["40"]), .proceed 0,
    .setSampleRate 0 .maxThrows, .proceed 0]

/-- The producer is left with a rate of 5 in the first run and in the last, and of 40 in the second. -/
theorem stale_rate_given :
    (∃ final, exec (step fun _ newRate => newRate) State.initial postDuringArrival = some final ∧
      ¬ RatesAgree (fun _ newRate => newRate) final) ∧
    (∃ final, exec (step fun _ newRate => newRate) State.initial overlappingPosts = some final ∧
      ¬ RatesAgree (fun _ newRate => newRate) final) ∧
    (∃ final, exec (step fun _ newRate => newRate) State.initial unreachable = some final ∧
      ¬ RatesAgree (fun _ newRate => newRate) final) := by
  have stale (s : State) (quiet : ∀ call, s.calls call = none) (member : 7 ∈ s.producers)
      (different : s.given 7 ≠ some s.productionRate) : ¬ RatesAgree (fun _ newRate => newRate) s :=
    fun agree => different (agree quiet 7 member)
  refine ⟨⟨_, rfl, ?_⟩, ⟨_, rfl, ?_⟩, ⟨_, rfl, ?_⟩⟩
  · apply stale _ _ (List.mem_singleton.mpr rfl) (by decide)
    intro call
    by_cases first : call = 0 <;> by_cases second : call = 1 <;>
      simp [State.setCall, State.setSampleRate, State.initial, Remote.arrives, first, second]
  · apply stale _ _ (List.mem_singleton.mpr rfl) (by decide)
    intro call
    by_cases first : call = 0 <;> by_cases second : call = 1 <;> by_cases third : call = 2 <;>
      simp [State.setCall, State.setSampleRate, State.initial, Remote.arrives, first, second, third]
  · apply stale _ _ (List.mem_singleton.mpr rfl) (by decide)
    intro call
    by_cases first : call = 0 <;> by_cases second : call = 1 <;>
      simp [State.setCall, State.setSampleRate, State.initial, Remote.arrives, first, second]

end Servlet.ProductionRate
