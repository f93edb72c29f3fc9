import Demonstrator.Java.Coordinator.Backend
import Demonstrator.Java.Servlet.Parameters
import Demonstrator.Transition.Runs
import Mathlib.Algebra.BigOperators.Fin
import Mathlib.Data.Fintype.BigOperators

namespace Servlet.ScaleProducer

open Arithmetic Coordinator Transition

variable {n : Nat}

inductive Phase where
  | waiting
  | counted (relReplicaCount : Option Int32) (currentReplicaCount : Int32)
  | answered
  | failed
  deriving DecidableEq, Repr

def Phase.Completed : Phase → Prop
  | .answered | .failed => True
  | _ => False

structure System (n : Nat) where
  coordinator : Backend
  phase : Fin n → Phase

def System.initial (coordinator : Backend) : System n := ⟨coordinator, fun _ => .waiting⟩

def System.move (s : System n) (request : Fin n) (phase : Phase) : System n :=
  { s with phase := Function.update s.phase request phase }

inductive Action (n : Nat) where
  | read (request : Fin n)
  | write (request : Fin n)
  | drift (status : String → String → Int32)

def step (parameters : Fin n → ParameterValues) (s : System n) : Action n → Option (System n)
  | .read request =>
    if s.phase request = .waiting then
      match getIntParameter (parameters request), s.coordinator.getReplicaCount .producer with
      | .ok value, .ok current => some (s.move request (.counted value current))
      | _, _ => some (s.move request .failed)
    else none
  | .write request =>
    match s.phase request with
    | .counted (some value) current =>
      let coordinator := (s.coordinator.setReplicaCount .producer (current + value)).1
      some { s.move request .answered with coordinator }
    -- the unboxing of a null value throws
    | .counted none _ => some (s.move request .failed)
    | _ => none
  | .drift status => some { s with coordinator := s.coordinator.drift status }

/-- Between the read of a request and its write no other request is between the two, and the write
    takes effect. -/
def Undisturbed (s : System n) : Action n → Prop
  | .write request => ∀ value current, s.phase request = .counted (some value) current →
      (∀ other, other ≠ request → ∀ value current, s.phase other ≠ .counted value current) ∧
      s.coordinator.TakesEffect .producer (current + value)
  | _ => True

def Bounded (initial maximum : Int32) (change : Fin n → Int32) : Prop :=
  ∀ subset : Finset (Fin n), 0 ≤ initial.toInt + ∑ request ∈ subset, (change request).toInt ∧
    initial.toInt + ∑ request ∈ subset, (change request).toInt ≤ maximum.toInt

def AllCounted (coordinator : Backend) (initial : Int32) (change : Fin n → Int32) : Prop :=
  ∃ current, coordinator.getReplicaCount .producer = .ok current ∧
    current.toInt = initial.toInt + ∑ request, (change request).toInt

def answered (s : System n) : Finset (Fin n) := Finset.univ.filter fun request => s.phase request = .answered

@[simp] theorem mem_answered {s : System n} {request : Fin n} :
    request ∈ answered s ↔ s.phase request = .answered := by
  simp [answered]

structure Accounted (maximum : Int32) (initial : Int32) (change : Fin n → Int32) (s : System n) : Prop where
  reliable : s.coordinator.Reliable .producer
  limit : s.coordinator.getMaxReplicaCount .producer = maximum
  count : ∃ current, s.coordinator.getReplicaCount .producer = .ok current ∧
    current.toInt = initial.toInt + ∑ request ∈ answered s, (change request).toInt ∧
    ∀ request value read, s.phase request = .counted value read → value = some (change request) ∧ read = current
  successful : ∀ request, s.phase request ≠ .failed

theorem answered_move (s : System n) (request : Fin n) (phase : Phase) (later : phase ≠ .answered)
    (pending : s.phase request ≠ .answered) : answered (s.move request phase) = answered s := by
  ext other
  by_cases same : other = request
  · subst same
    simp [System.move, later, pending]
  · simp [System.move, same]

theorem answered_insert (s : System n) (request : Fin n) (coordinator : Backend) :
    answered { s.move request .answered with coordinator } = insert request (answered s) := by
  ext other
  by_cases same : other = request
  · subst same
    simp [System.move]
  · simp [System.move, same]

section Steps

variable {parameters : Fin n → ParameterValues} {change : Fin n → Int32} {maximum initial : Int32}
variable {s t : System n}

theorem Accounted.move_successful (accounted : Accounted maximum initial change s) (request : Fin n)
    {phase : Phase} (fine : phase ≠ .failed) (other : Fin n) : (s.move request phase).phase other ≠ .failed := by
  by_cases same : other = request
  · subst same
    simpa [System.move] using fine
  · simpa [System.move, same] using accounted.successful other

theorem Accounted.read (accounted : Accounted maximum initial change s)
    (values : ∀ request, getIntParameter (parameters request) = .ok (some (change request))) {request : Fin n}
    (h : step parameters s (.read request) = some t) : Accounted maximum initial change t := by
  obtain ⟨current, count, sum, read⟩ := accounted.count
  simp only [step, values request, count] at h
  split at h
  · rename_i waiting
    have pending : s.phase request ≠ .answered := by simp [waiting]
    have same := answered_move s request (.counted (some (change request)) current) (by simp) pending
    have reads : ∀ other value seen,
        (s.move request (.counted (some (change request)) current)).phase other = .counted value seen →
          value = some (change other) ∧ seen = current := by
      intro other value seen counted
      by_cases this : other = request
      · subst this
        simp only [System.move, Function.update_self, Phase.counted.injEq] at counted
        exact ⟨counted.1.symm, counted.2.symm⟩
      · simp only [System.move, Function.update_of_ne this] at counted
        exact read other value seen counted
    cases h
    exact {
      reliable := accounted.reliable
      limit := accounted.limit
      count := ⟨current, count, same.symm ▸ sum, reads⟩
      successful := accounted.move_successful request (by simp) }
  · cases h

theorem Accounted.write (accounted : Accounted maximum initial change s)
    (bounded : Bounded initial maximum change) {request : Fin n}
    (undisturbed : Undisturbed s (.write request)) (h : step parameters s (.write request) = some t) :
    Accounted maximum initial change t := by
  obtain ⟨current, count, sum, read⟩ := accounted.count
  simp only [step] at h
  split at h
  · rename_i value seen counted
    obtain ⟨same, rfl⟩ := read request _ _ counted
    cases same
    obtain ⟨alone, effect⟩ := undisturbed _ _ counted
    have fresh : request ∉ answered s := by simp [counted]
    have next : initial.toInt + ∑ other ∈ insert request (answered s), (change other).toInt =
        seen.toInt + (change request).toInt := by
      rw [Finset.sum_insert fresh, sum]
      omega
    obtain ⟨low, high⟩ := bounded (insert request (answered s))
    rw [next] at low high
    have top := maximum.toInt_lt
    have added : (seen + change request).toInt = seen.toInt + (change request).toInt := by
      rw [toInt_add_of_range] <;> omega
    have nonnegative : 0 ≤ seen + change request := by
      rw [toInt_nonneg, added]
      exact low
    have within : seen + change request ≤ s.coordinator.getMaxReplicaCount .producer := by
      rw [accounted.limit, Int32.le_iff_toInt_le, added]
      exact high
    have written := Backend.set_within accounted.reliable effect nonnegative within
    have limit := Backend.set_maximum s.coordinator .producer .producer (seen + change request)
    -- whoever had read the old count would lose this change
    have reads : ∀ other value' seen', (s.move request .answered).phase other ≠ .counted value' seen' := by
      intro other value' seen' counted'
      by_cases this : other = request
      · subst this
        simp [System.move] at counted'
      · simp only [System.move, Function.update_of_ne this] at counted'
        exact alone other this value' seen' counted'
    cases h
    exact {
      reliable := Backend.set_reliable accounted.reliable _ _
      limit := limit.trans accounted.limit
      count := by
        have total := answered_insert s request
          (s.coordinator.setReplicaCount .producer (seen + change request)).1
        exact ⟨_, written, by rw [total, next, added],
          fun other value' seen' counted' => absurd counted' (reads other value' seen')⟩
      successful := accounted.move_successful request (by simp) }
  · rename_i counted
    exact absurd (read request _ _ counted).1 (by simp)
  · cases h

theorem Accounted.drift (accounted : Accounted maximum initial change s) (status : String → String → Int32) :
    Accounted maximum initial change { s with coordinator := s.coordinator.drift status } := by
  obtain ⟨current, count, sum, read⟩ := accounted.count
  have same := Backend.drift_count s.coordinator .producer status accounted.reliable
  have limit := Backend.drift_maximum s.coordinator .producer status
  exact {
    reliable := Backend.drift_reliable accounted.reliable status
    limit := limit.trans accounted.limit
    count := ⟨current, same.trans count, sum, read⟩
    successful := accounted.successful }

theorem accounted_step
    (values : ∀ request, getIntParameter (parameters request) = .ok (some (change request)))
    (bounded : Bounded initial maximum change)
    (s : System n) (action : Action n) (t : System n) (accounted : Accounted maximum initial change s)
    (undisturbed : Undisturbed s action) (h : step parameters s action = some t) :
    Accounted maximum initial change t := by
  cases action with
  | read request => exact accounted.read values h
  | write request => exact accounted.write bounded undisturbed h
  | drift status =>
    cases h
    exact accounted.drift status

end Steps

/-- No scaling request is lost in a run where no two requests are between their read and their write
    at the same time and the writes take effect. -/
theorem no_lost_scaling (parameters : Fin n → ParameterValues) (change : Fin n → Int32)
    (values : ∀ request, getIntParameter (parameters request) = .ok (some (change request)))
    (coordinator : Backend) (initial : Int32) (reliable : coordinator.Reliable .producer)
    (count : coordinator.getReplicaCount .producer = .ok initial)
    (bounded : Bounded initial (coordinator.getMaxReplicaCount .producer) change)
    (actions : List (Action n)) (final : System n)
    (undisturbed : Meets (step parameters) Undisturbed (System.initial coordinator) actions)
    (run : exec (step parameters) (System.initial coordinator) actions = some final)
    (completed : ∀ request, (final.phase request).Completed) :
    AllCounted final.coordinator initial change := by
  have start : Accounted (coordinator.getMaxReplicaCount .producer) initial change
      (System.initial coordinator) := by
    have none : answered (System.initial coordinator : System n) = ∅ := by
      ext request
      simp [System.initial]
    have sum : initial.toInt = initial.toInt +
        ∑ request ∈ answered (System.initial coordinator : System n), (change request).toInt := by
      rw [none, Finset.sum_empty, Int.add_zero]
    exact ⟨reliable, rfl, ⟨initial, count, sum, by simp [System.initial]⟩, by simp [System.initial]⟩
  have accounted := meets_invariant (accounted_step values bounded) start undisturbed run
  obtain ⟨current, counted, sum, _⟩ := accounted.count
  have all : answered final = Finset.univ := by
    ext request
    have finished := completed request
    have successful := accounted.successful request
    cases phase : final.phase request <;> simp_all [Phase.Completed]
  exact ⟨current, counted, by rw [sum, all]⟩

def upAndDown : Fin 2 → ParameterValues
  | 0 => some ["2"]
  | 1 => some ["-1"]

theorem no_lost_scaling_sequential :
    ∃ final, exec (step upAndDown) (System.initial (.stub startAll oneStarted))
        [.read 0, .write 0, .read 1, .write 1] = some final ∧
      AllCounted final.coordinator 1 ![2, -1] := by
  have values : ∀ request, getIntParameter (upAndDown request) = .ok (some (![2, -1] request)) :=
    Fin.forall_fin_two.mpr ⟨by decide, by decide⟩
  have bounded : Bounded 1 4 (![2, -1] : Fin 2 → Int32) := by
    unfold Bounded
    decide
  have undisturbed : Meets (step upAndDown) Undisturbed (System.initial (.stub startAll oneStarted))
      [.read 0, .write 0, .read 1, .write 1] := by
    apply meets_cons True.intro rfl
    apply meets_cons _ rfl
    · apply meets_cons True.intro rfl
      apply meets_cons _ rfl
      · exact True.intro
      · intro _ _ _
        have alone : ∀ value current, (Phase.answered : Phase) ≠ .counted value current := by simp
        exact ⟨Fin.forall_fin_two.mpr ⟨fun _ => alone, fun different => absurd rfl different⟩, True.intro⟩
    · intro _ _ _
      have alone : ∀ value current, (Phase.waiting : Phase) ≠ .counted value current := by simp
      exact ⟨Fin.forall_fin_two.mpr ⟨fun different => absurd rfl different, fun _ => alone⟩, True.intro⟩
  exact ⟨_, rfl, no_lost_scaling upAndDown ![2, -1] values (.stub startAll oneStarted) 1
    ⟨fun _ => rfl, by decide⟩ rfl bounded _ _ undisturbed rfl
    (Fin.forall_fin_two.mpr ⟨True.intro, True.intro⟩)⟩

def twoMore : Fin 2 → ParameterValues := fun _ => some ["1"]

def scalingDown : KubernetesCoordinator where
  config := ⟨⟨8, 4⟩, .single "r", .single "p", "default"⟩
  cluster := ⟨fun _ _ => some ⟨1, 2⟩, fun _ _ => true⟩

/-- Both read one and both write two, so one of them is lost. A single request is lost as well when
    the controller still runs the number of replicas that the request asks for. -/
theorem overlapping_scaling_lost :
    (∃ final, exec (step twoMore) (System.initial (.stub startAll oneStarted))
        [.read 0, .read 1, .write 0, .write 1] = some final ∧
      (∀ request, (final.phase request).Completed) ∧
      Bounded 1 4 (![1, 1] : Fin 2 → Int32) ∧ ¬ AllCounted final.coordinator 1 ![1, 1]) ∧
    (∃ final, exec (step fun _ : Fin 1 => some ["1"]) (System.initial (.kubernetes scalingDown))
        [.read 0, .write 0] = some final ∧
      (∀ request, (final.phase request).Completed) ∧
      Bounded 1 4 (![1] : Fin 1 → Int32) ∧ ¬ AllCounted final.coordinator 1 ![1]) := by
  have bounded : Bounded 1 4 (![1, 1] : Fin 2 → Int32) := by
    unfold Bounded
    decide
  have single : Bounded 1 4 (![1] : Fin 1 → Int32) := by
    unfold Bounded
    decide
  have lost (b : Backend) (count : b.getReplicaCount .producer = .ok 2) :
      ¬ AllCounted b 1 (![1, 1] : Fin 2 → Int32) := by
    intro all
    obtain ⟨current, read, sum⟩ := all
    cases count.symm.trans read
    exact absurd sum (by decide)
  have dropped (b : Backend) (count : b.getReplicaCount .producer = .ok 1) :
      ¬ AllCounted b 1 (![1] : Fin 1 → Int32) := by
    intro all
    obtain ⟨current, read, sum⟩ := all
    cases count.symm.trans read
    exact absurd sum (by decide)
  exact ⟨⟨_, rfl, Fin.forall_fin_two.mpr ⟨True.intro, True.intro⟩, bounded, lost _ rfl⟩,
    ⟨_, rfl, Fin.forall_fin_one.mpr True.intro, single, dropped _ rfl⟩⟩

end Servlet.ScaleProducer
