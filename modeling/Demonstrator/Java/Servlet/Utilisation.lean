import Demonstrator.Arithmetic.Int32
import Demonstrator.Arithmetic.Truncation
import Demonstrator.Java.Producer.SampleRate
import Demonstrator.Java.Servlet.Parameters
import Mathlib.Logic.Function.Basic
import Mathlib.Tactic.FieldSimp
import Mathlib.Tactic.Positivity

namespace Servlet

open Arithmetic

/-- An `AbstractSampleProducer`, its `m_minTaskInterval` in microseconds. -/
structure SampleProducer where
  minTaskInterval : Int
  low : 1000 ≤ minTaskInterval
  high : minTaskInterval ≤ 1000000

namespace SampleProducer

def getMaxSampleRate (p : SampleProducer) : Int := Int.tdiv 1000000 p.minTaskInterval

def getSampleRate (p : SampleProducer) (taskInterval : Int) : Int :=
  if taskInterval < p.minTaskInterval then 0 else Int.tdiv 1000000 taskInterval

/-- The new `m_taskInterval`. Rate 0 makes it lie outside of the valid range. -/
def setSampleRate (p : SampleProducer) (rate : Int) : Int :=
  if rate = 0 then p.minTaskInterval - 1 else Int.tdiv 1000000 rate

theorem getMaxSampleRate_floor (p : SampleProducer) :
    p.getMaxSampleRate = ⌊(1000000 : ℚ) / p.minTaskInterval⌋ := by
  have positive : 0 ≤ p.minTaskInterval := le_trans (by decide) p.low
  obtain ⟨interval, natural⟩ := Int.eq_ofNat_of_zero_le positive
  have floor := Rat.floor_intCast_div_natCast 1000000 interval
  rw [getMaxSampleRate, Int.tdiv_eq_ediv_of_nonneg (by decide), natural]
  exact_mod_cast floor.symm

theorem maxSampleRate_range (p : SampleProducer) : 1 ≤ p.getMaxSampleRate ∧ p.getMaxSampleRate ≤ 1000 := by
  have low := p.low
  have high := p.high
  rw [getMaxSampleRate, Int.tdiv_eq_ediv_of_nonneg (by decide)]
  constructor
  · exact (Int.le_ediv_iff_mul_le (by omega)).mpr (by omega)
  · apply Int.lt_add_one_iff.mp
    exact (Int.ediv_lt_iff_lt_mul (by omega)).mpr (by omega)

theorem getSampleRate_set (p : SampleProducer) (rate : Int) (nonneg : 0 ≤ rate)
    (within : rate ≤ p.getMaxSampleRate) : p.getSampleRate (p.setSampleRate rate) = rate := by
  have low := p.low
  by_cases stopped : rate = 0
  · simp [setSampleRate, getSampleRate, stopped]
  · have positive : 0 < rate := by omega
    have bound := p.maxSampleRate_range.2
    rw [getMaxSampleRate, Int.tdiv_eq_ediv_of_nonneg (by decide)] at within
    have fits : rate * p.minTaskInterval ≤ 1000000 := (Int.le_ediv_iff_mul_le (by omega)).mp within
    have interval : p.minTaskInterval ≤ 1000000 / rate := by
      apply (Int.le_ediv_iff_mul_le positive).mpr
      rw [mul_comm]
      exact fits
    have small : rate * rate ≤ 1000000 := by
      rw [getMaxSampleRate, Int.tdiv_eq_ediv_of_nonneg (by decide)] at bound
      have thousand : rate ≤ 1000 := by omega
      nlinarith
    rw [setSampleRate, if_neg stopped, Int.tdiv_eq_ediv_of_nonneg (by decide), getSampleRate, if_neg (by omega),
      Int.tdiv_eq_ediv_of_nonneg (by decide)]
    exact div_div_of_sq_le positive small

theorem represents (s : SampleProducer) (p : AbstractSampleProducer)
    (same : p.minTaskInterval.toInt = s.minTaskInterval) :
    p.getMaxSampleRate.map Int32.toInt = some s.getMaxSampleRate ∧
      p.getSampleRate.map Int32.toInt = some (s.getSampleRate p.taskInterval.toInt) ∧
      ∀ rate, (p.setSampleRate rate).map (fun q => q.taskInterval.toInt) = some (s.setSampleRate rate.toInt) := by
  obtain ⟨maximum, most, quotient⟩ := p.getMaxSampleRate_some
  obtain ⟨reported, answer, value⟩ := p.getSampleRate_some
  have million : (0 : Int) ≤ 1000000 := by decide
  rw [same] at quotient value
  refine ⟨?_, ?_, fun rate => ?_⟩
  · rw [most, Option.map_some, quotient, getMaxSampleRate, Int.tdiv_eq_ediv_of_nonneg million]
  · rw [answer, Option.map_some, value, getSampleRate, Int.tdiv_eq_ediv_of_nonneg million]
  · obtain ⟨q, set, _, interval⟩ := p.setSampleRate_some rate
    rw [set, Option.map_some, interval, same]
    rfl

end SampleProducer

/-- `(int) ((p.getMaxSampleRate() / 100.0) * newRate)`, with the exact product. -/
def rateFor (p : SampleProducer) (newRate : Int32) : Int :=
  truncate ((p.getMaxSampleRate : ℚ) / 100 * newRate.toInt)

theorem rateFor_floor (p : SampleProducer) (newRate : Int32) (low : 0 ≤ newRate.toInt) :
    rateFor p newRate = ⌊(p.getMaxSampleRate : ℚ) * newRate.toInt / 100⌋ := by
  have maximum : (1 : ℚ) ≤ p.getMaxSampleRate := by exact_mod_cast p.maxSampleRate_range.1
  have share : (0 : ℚ) ≤ newRate.toInt := by exact_mod_cast low
  rw [rateFor, truncate_of_nonneg (by positivity), div_mul_eq_mul_div]

theorem rateFor_range (p : SampleProducer) (newRate : Int32) (low : 0 ≤ newRate.toInt) (high : newRate.toInt ≤ 100) :
    0 ≤ rateFor p newRate ∧ rateFor p newRate ≤ p.getMaxSampleRate := by
  have maximum : (1 : ℚ) ≤ p.getMaxSampleRate := by exact_mod_cast p.maxSampleRate_range.1
  have share : (0 : ℚ) ≤ newRate.toInt := by exact_mod_cast low
  have whole : (newRate.toInt : ℚ) ≤ 100 := by exact_mod_cast high
  rw [rateFor_floor p newRate low]
  constructor
  · apply Int.floor_nonneg.mpr
    positivity
  · have bound : (p.getMaxSampleRate : ℚ) * newRate.toInt / 100 ≤ p.getMaxSampleRate := by
      rw [div_le_iff₀ (by norm_num)]
      nlinarith
    have floored := (Int.floor_le ((p.getMaxSampleRate : ℚ) * newRate.toInt / 100)).trans bound
    exact_mod_cast floored

/-- The two components the producers register with, and the interval of each producer. The producers
    are numbered, and `instances` gives their constants. -/
structure Registry where
  servletProducers : List Nat
  productionRate : Int32
  aggregatorProducers : List Nat
  taskInterval : Nat → Int

inductive Event where
  | addProducer (producer : Nat)
  | removeProducer (producer : Nat)
  | post (parameters : ParameterValues)

section Registry

variable (instances : Nat → SampleProducer)

def Registry.setSampleRate (s : Registry) (producer : Nat) (newRate : Int32) : Registry :=
  { s with
    taskInterval := Function.update s.taskInterval producer
      ((instances producer).setSampleRate (rateFor (instances producer) newRate)) }

def Registry.apply (s : Registry) : Event → Registry
  | .addProducer producer =>
    let appended :=
      { s with
        servletProducers := s.servletProducers ++ [producer]
        aggregatorProducers := s.aggregatorProducers ++ [producer] }
    appended.setSampleRate instances producer s.productionRate
  | .removeProducer producer =>
    { s with
      servletProducers := s.servletProducers.erase producer
      aggregatorProducers := s.aggregatorProducers.erase producer }
  | .post parameters =>
    match utilisationValue parameters with
    | none => s
    | some value =>
      s.servletProducers.foldl (fun s producer => s.setSampleRate instances producer value)
        { s with productionRate := value }

def Registry.start (intervals : Nat → Int) : Registry := ⟨[], 5, [], intervals⟩

def Registry.getValue (s : Registry) : ℚ :=
  let actual := (s.aggregatorProducers.map fun producer =>
    (instances producer).getSampleRate (s.taskInterval producer)).sum
  let max := (s.aggregatorProducers.map fun producer => (instances producer).getMaxSampleRate).sum
  if max = 0 then 0 else 100 * actual / max

end Registry

def registered : List Nat → List Event → List Nat
  | producers, [] => producers
  | producers, .addProducer producer :: later => registered (producers ++ [producer]) later
  | producers, .removeProducer producer :: later => registered (producers.erase producer) later
  | producers, .post _ :: later => registered producers later

def lastAccepted : Int32 → List Event → Int32
  | value, [] => value
  | value, .post parameters :: later => lastAccepted ((utilisationValue parameters).getD value) later
  | value, .addProducer _ :: later | value, .removeProducer _ :: later => lastAccepted value later

/-- The last accepted value has come as the text of a request. -/
def Posted (history : List Event) (value : Int32) : Prop :=
  ∃ before text after, history = before ++ .post (some [text]) :: after ∧ ConfigUtils.parseInt text = some value ∧
    ∀ parameters, .post parameters ∈ after → utilisationValue parameters = none

theorem utilisationValue_text {parameters : ParameterValues} {value : Int32}
    (accepted : utilisationValue parameters = some value) :
    ∃ text, parameters = some [text] ∧ ConfigUtils.parseInt text = some value := by
  unfold utilisationValue at accepted
  split at accepted
  · rename_i found read
    split at accepted <;> cases accepted
    unfold getIntParameter at read
    split at read
    · cases read
    · rename_i text
      exact ⟨text, rfl, Except.ok.inj read⟩
    · cases read
  · cases accepted

theorem utilisationValue_repr {value : Int32} (low : 0 ≤ value) (high : value ≤ 100) :
    utilisationValue (some [value.toInt.repr]) = some value := by
  have inside : ¬ (value < 0 ∨ 100 < value) := not_or.mpr ⟨Int32.not_lt.mpr low, Int32.not_lt.mpr high⟩
  rw [utilisationValue, getIntParameter_repr]
  exact if_neg inside

theorem lastAccepted_append (value : Int32) (history more : List Event) :
    lastAccepted value (history ++ more) = lastAccepted (lastAccepted value history) more := by
  induction history generalizing value with
  | nil => rfl
  | cons event later ih => cases event <;> exact ih _

theorem posted_or_unset (value : Int32) (history : List Event) :
    (lastAccepted value history = value ∧
        ∀ parameters, .post parameters ∈ history → utilisationValue parameters = none) ∨
      Posted history (lastAccepted value history) := by
  induction history using List.reverseRecOn with
  | nil => exact .inl ⟨rfl, fun _ member => absurd member List.not_mem_nil⟩
  | append_singleton history event ih =>
    rw [lastAccepted_append]
    by_cases ignored : ∀ parameters, event = .post parameters → utilisationValue parameters = none
    · have kept : lastAccepted (lastAccepted value history) [event] = lastAccepted value history := by
        cases event with
        | addProducer | removeProducer => rfl
        | post parameters => simp [lastAccepted, ignored parameters rfl]
      rw [kept]
      rcases ih with ⟨unset, none⟩ | ⟨before, text, after, rfl, parsed, none⟩
      · refine .inl ⟨unset, fun parameters member => ?_⟩
        rcases List.mem_append.mp member with earlier | last
        · exact none parameters earlier
        · exact ignored parameters (List.mem_singleton.mp last).symm
      · refine .inr ⟨before, text, after ++ [event], by simp, parsed, fun parameters member => ?_⟩
        rcases List.mem_append.mp member with earlier | last
        · exact none parameters earlier
        · exact ignored parameters (List.mem_singleton.mp last).symm
    · simp only [not_forall] at ignored
      obtain ⟨parameters, rfl, accepted⟩ := ignored
      obtain ⟨new, accepted⟩ := Option.ne_none_iff_exists'.mp accepted
      obtain ⟨text, rfl, parsed⟩ := utilisationValue_text accepted
      refine .inr ⟨history, text, [], rfl, ?_, fun _ member => absurd member List.not_mem_nil⟩
      rw [parsed, lastAccepted, accepted]
      rfl

theorem utilisationValue_range {parameters : ParameterValues} {value : Int32}
    (accepted : utilisationValue parameters = some value) : 0 ≤ value.toInt ∧ value.toInt ≤ 100 := by
  simp only [utilisationValue] at accepted
  split at accepted
  · split at accepted
    · cases accepted
    · rename_i inside
      cases accepted
      rw [not_or, Int32.not_lt, Int32.not_lt, Int32.le_iff_toInt_le, Int32.le_iff_toInt_le] at inside
      exact inside
  · cases accepted

section Histories

variable (instances : Nat → SampleProducer)

def intervalFor (value : Int32) (producer : Nat) : Int :=
  (instances producer).setSampleRate (rateFor (instances producer) value)

theorem foldl_setSampleRate (producers : List Nat) (value : Int32) (s : Registry) :
    producers.foldl (fun s producer => s.setSampleRate instances producer value) s =
      { s with
        taskInterval := fun producer =>
          if producer ∈ producers then intervalFor instances value producer else s.taskInterval producer } := by
  induction producers generalizing s with
  | nil => simp
  | cons first rest ih =>
    rw [List.foldl_cons, ih]
    simp only [Registry.setSampleRate, Registry.mk.injEq, true_and]
    funext producer
    by_cases later : producer ∈ rest
    · simp [later]
    · by_cases same : producer = first
      · subst same
        simp [later, intervalFor]
      · simp [later, same]

structure Tuned (producers : List Nat) (value : Int32) (s : Registry) : Prop where
  servlet : s.servletProducers = producers
  aggregator : s.aggregatorProducers = producers
  rate : s.productionRate = value
  low : 0 ≤ value.toInt
  high : value.toInt ≤ 100
  intervals : ∀ producer ∈ producers, s.taskInterval producer = intervalFor instances value producer

variable {instances} {producers : List Nat} {value : Int32} {s : Registry}

theorem Tuned.add (tuned : Tuned instances producers value s) (producer : Nat) :
    Tuned instances (producers ++ [producer]) value (s.apply instances (.addProducer producer)) where
  servlet := by simp [Registry.apply, Registry.setSampleRate, tuned.servlet]
  aggregator := by simp [Registry.apply, Registry.setSampleRate, tuned.aggregator]
  rate := tuned.rate
  low := tuned.low
  high := tuned.high
  intervals := by
    intro other member
    simp only [Registry.apply, Registry.setSampleRate, tuned.rate]
    by_cases same : other = producer
    · subst same
      simp [intervalFor]
    · have before : other ∈ producers := by simpa [same] using member
      simpa [same] using tuned.intervals other before

theorem Tuned.remove (tuned : Tuned instances producers value s) (producer : Nat) :
    Tuned instances (producers.erase producer) value (s.apply instances (.removeProducer producer)) where
  servlet := by simp [Registry.apply, tuned.servlet]
  aggregator := by simp [Registry.apply, tuned.aggregator]
  rate := tuned.rate
  low := tuned.low
  high := tuned.high
  intervals := fun other member => tuned.intervals other (List.mem_of_mem_erase member)

theorem Tuned.post (tuned : Tuned instances producers value s) (parameters : ParameterValues) :
    Tuned instances producers ((utilisationValue parameters).getD value)
      (s.apply instances (.post parameters)) := by
  cases accepted : utilisationValue parameters with
  | none => simpa [Registry.apply, accepted] using tuned
  | some new =>
    have range := utilisationValue_range accepted
    simp only [Registry.apply, accepted, foldl_setSampleRate, Option.getD_some]
    refine ⟨tuned.servlet, tuned.aggregator, rfl, range.1, range.2, ?_⟩
    intro producer member
    rw [tuned.servlet]
    exact if_pos member

theorem Tuned.history (history : List Event) (tuned : Tuned instances producers value s) :
    Tuned instances (registered producers history) (lastAccepted value history)
      (history.foldl (Registry.apply instances) s) := by
  induction history generalizing producers value s with
  | nil => exact tuned
  | cons event later ih =>
    rw [List.foldl_cons]
    cases event with
    | addProducer producer => exact ih (tuned.add producer)
    | removeProducer producer => exact ih (tuned.remove producer)
    | post parameters => exact ih (tuned.post parameters)

def share (instances : Nat → SampleProducer) (value : Int32) (producer : Nat) : ℚ :=
  ((instances producer).getMaxSampleRate : ℚ) * value.toInt / 100

theorem Tuned.getSampleRate (tuned : Tuned instances producers value s) {producer : Nat}
    (member : producer ∈ producers) :
    (instances producer).getSampleRate (s.taskInterval producer) = ⌊share instances value producer⌋ := by
  obtain ⟨nonneg, within⟩ := rateFor_range (instances producer) value tuned.low tuned.high
  rw [tuned.intervals producer member, intervalFor, (instances producer).getSampleRate_set _ nonneg within,
    rateFor_floor _ _ tuned.low, share]

def maxSum (instances : Nat → SampleProducer) (producers : List Nat) : Int :=
  (producers.map fun producer => (instances producer).getMaxSampleRate).sum

theorem maxSum_pos (nonempty : producers ≠ []) : 0 < maxSum instances producers := by
  unfold maxSum
  apply List.sum_pos
  · intro rate member
    obtain ⟨producer, _, rfl⟩ := List.mem_map.mp member
    have := (instances producer).maxSampleRate_range.1
    omega
  · simpa using nonempty

theorem Tuned.getValue (tuned : Tuned instances producers value s) :
    s.getValue instances =
      100 * ((producers.map fun producer => ⌊share instances value producer⌋).sum : Int) /
        maxSum instances producers := by
  have rates : s.aggregatorProducers.map (fun producer =>
      (instances producer).getSampleRate (s.taskInterval producer)) =
      producers.map fun producer => ⌊share instances value producer⌋ := by
    rw [tuned.aggregator]
    apply List.map_congr_left
    intro producer member
    exact tuned.getSampleRate member
  have maxima : (s.aggregatorProducers.map fun producer => (instances producer).getMaxSampleRate).sum =
      maxSum instances producers := by rw [tuned.aggregator, maxSum]
  simp only [Registry.getValue, rates, maxima]
  split
  · rename_i none
    simp [none]
  · rfl

theorem sum_share (value : Int32) (producers : List Nat) :
    (producers.map (share instances value)).sum = (maxSum instances producers : ℚ) * value.toInt / 100 := by
  induction producers with
  | nil => simp [maxSum]
  | cons producer rest ih =>
    simp only [List.map_cons, List.sum_cons, ih, share, maxSum]
    push_cast
    ring

theorem value_le (value : Int32) (low : 0 ≤ value.toInt) (producers : List Nat) :
    (100 * ((producers.map fun producer => ⌊share instances value producer⌋).sum : Int) /
      maxSum instances producers : ℚ) ≤ value.toInt := by
  by_cases empty : producers = []
  · subst empty
    simpa [maxSum] using low
  · have positive : (0 : ℚ) < maxSum instances producers := by exact_mod_cast maxSum_pos empty
    have floors := sum_floor_le (producers.map (share instances value))
    rw [List.map_map, sum_share] at floors
    rw [div_le_iff₀ positive]
    simp only [Function.comp_def] at floors
    linarith

theorem value_gap (value : Int32) (producers : List Nat) (nonempty : producers ≠ []) :
    (value.toInt - 100 * ((producers.map fun producer => ⌊share instances value producer⌋).sum : Int) /
      maxSum instances producers : ℚ) < 100 * producers.length / maxSum instances producers := by
  have positive : (0 : ℚ) < maxSum instances producers := by exact_mod_cast maxSum_pos nonempty
  have floors := @sum_lt_sum_floor (producers.map (share instances value)) (by simpa using nonempty)
  rw [List.map_map, sum_share, List.length_map] at floors
  simp only [Function.comp_def] at floors
  rw [sub_lt_iff_lt_add, ← add_div, lt_div_iff₀ positive]
  linarith

end Histories

/-- The aggregator reports the requested utilisation up to the rounding of each rate, after every
    history. A request with the decimal text of a percentage is what changes it. -/
theorem utilisation_reported (instances : Nat → SampleProducer) (intervals : Nat → Int) (history : List Event) :
    let s := history.foldl (Registry.apply instances) (.start intervals)
    let producers := registered [] history
    let value := lastAccepted 5 history
    let rate (producer : Nat) := ⌊((instances producer).getMaxSampleRate : ℚ) * value.toInt / 100⌋
    let max := (producers.map fun producer => (instances producer).getMaxSampleRate).sum
    s.getValue instances = (if producers = [] then 0 else 100 * ((producers.map rate).sum : Int) / (max : ℚ)) ∧
      s.getValue instances ≤ value.toInt ∧
      (producers ≠ [] → value.toInt - s.getValue instances < 100 * producers.length / (max : ℚ)) ∧
      (∀ producer, (instances producer).getMaxSampleRate =
        ⌊(1000000 : ℚ) / (instances producer).minTaskInterval⌋) ∧
      (value = 5 ∧ (∀ parameters, .post parameters ∈ history → utilisationValue parameters = none) ∨
        Posted history value) ∧
      ∀ next, 0 ≤ next → next ≤ 100 → lastAccepted 5 (history ++ [.post (some [next.toInt.repr])]) = next := by
  have start : Tuned instances [] 5 (.start intervals) := ⟨rfl, rfl, rfl, by decide, by decide, by simp⟩
  have tuned := start.history history
  have reported := tuned.getValue
  intro s producers value rate max
  refine ⟨?_, ?_, ?_, fun producer => (instances producer).getMaxSampleRate_floor, posted_or_unset 5 history, ?_⟩
  · split
    · rename_i empty
      rw [reported, show registered [] history = [] from empty]
      simp
    · exact reported
  · rw [reported]
    exact value_le _ tuned.low _
  · intro nonempty
    rw [reported]
    exact value_gap _ _ nonempty
  · intro next low high
    rw [lastAccepted_append, lastAccepted, utilisationValue_repr low high]
    rfl

def slowAndFast (producer : Nat) : SampleProducer :=
  if producer = 0 then ⟨3000, by decide, by decide⟩ else ⟨1000, by decide, by decide⟩

def halved : List Event := [.addProducer 0, .post (some ["50"]), .post (some ["half"]), .addProducer 1]

theorem halved_reported :
    let s := halved.foldl (Registry.apply slowAndFast) (.start fun _ => 0)
    s.getValue slowAndFast = 66600 / 1333 ∧ s.getValue slowAndFast ≤ 50 ∧ Posted halved 50 := by
  intro s
  obtain ⟨_, most, _, _, posted, _⟩ := utilisation_reported slowAndFast (fun _ => 0) halved
  have last : lastAccepted 5 halved = 50 := by decide
  rw [last] at most posted
  exact ⟨by decide +kernel, most, posted.resolve_left fun unset => absurd unset.1 (by decide)⟩

end Servlet
