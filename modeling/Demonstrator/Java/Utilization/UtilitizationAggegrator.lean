import Demonstrator.Arithmetic.Int32
import Demonstrator.Java.Servlet.Utilisation

namespace UtilitizationAggegrator

structure Producer (Failure : Type) where
  rate : Int32
  max : Int32
  low : 0 ≤ rate
  high : rate ≤ max
  rateFailure : Option Failure
  maxFailure : Option Failure

variable {Failure : Type}

def Producer.getSampleRate (p : Producer Failure) : Except Failure Int32 :=
  match p.rateFailure with
  | none => .ok p.rate
  | some failure => .error failure

def Producer.getMaxSampleRate (p : Producer Failure) : Except Failure Int32 :=
  match p.maxFailure with
  | none => .ok p.max
  | some failure => .error failure

def warning : String := "Failed to get utilization from producer!"

/-- The local variables of `getValue` and what it has logged. A list has fewer than 2³¹ members, so that the
    sums of a `long` are exact. -/
structure Sums (Failure : Type) where
  actual : Int
  max : Int
  logged : List (String × Failure)

/-- One pass of the loop: the first sum is updated before the second call. -/
def Sums.collect (sums : Sums Failure) (producer : Producer Failure) : Sums Failure :=
  match producer.getSampleRate with
  | .error failure => { sums with logged := sums.logged ++ [(warning, failure)] }
  | .ok rate =>
    let counted := { sums with actual := sums.actual + rate.toInt }
    match producer.getMaxSampleRate with
    | .error failure => { counted with logged := counted.logged ++ [(warning, failure)] }
    | .ok max => { counted with max := counted.max + max.toInt }

def collectAll (producers : List (Producer Failure)) : Sums Failure :=
  producers.foldl Sums.collect ⟨0, 0, []⟩

def getValue (producers : List (Producer Failure)) : ℚ :=
  let sums := collectAll producers
  if sums.max = 0 then 0 else 100 * sums.actual / sums.max

def Producer.answers (p : Producer Failure) : Bool := p.rateFailure.isNone && p.maxFailure.isNone

def Producer.halfAnswers (p : Producer Failure) : Bool := p.rateFailure.isNone && p.maxFailure.isSome

def rates (producers : List (Producer Failure)) : List Int := producers.map fun producer => producer.rate.toInt

def maxima (producers : List (Producer Failure)) : List Int := producers.map fun producer => producer.max.toInt

def ratio (producers : List (Producer Failure)) : ℚ :=
  if (maxima producers).sum = 0 then 0 else 100 * (rates producers).sum / (maxima producers).sum

def TrueRatio (producers : List (Producer Failure)) : Prop :=
  getValue producers = ratio (producers.filter Producer.answers) ∧ 0 ≤ getValue producers ∧ getValue producers ≤ 100

section Sums

variable (producers : List (Producer Failure))

theorem collect_actual (sums : Sums Failure) : (producers.foldl Sums.collect sums).actual =
    sums.actual + (rates (producers.filter Producer.answers)).sum +
      (rates (producers.filter Producer.halfAnswers)).sum := by
  induction producers generalizing sums with
  | nil => simp [rates]
  | cons producer later ih =>
    rw [List.foldl_cons, ih]
    cases first : producer.rateFailure with
    | some failure =>
      simp [Sums.collect, Producer.getSampleRate, Producer.answers, Producer.halfAnswers, first]
    | none =>
      cases second : producer.maxFailure <;>
        simp [Sums.collect, Producer.getSampleRate, Producer.getMaxSampleRate, Producer.answers,
          Producer.halfAnswers, first, second, rates] <;> omega

theorem collect_max (sums : Sums Failure) : (producers.foldl Sums.collect sums).max =
    sums.max + (maxima (producers.filter Producer.answers)).sum := by
  induction producers generalizing sums with
  | nil => simp [maxima]
  | cons producer later ih =>
    rw [List.foldl_cons, ih]
    cases first : producer.rateFailure with
    | some failure => simp [Sums.collect, Producer.getSampleRate, Producer.answers, first]
    | none =>
      cases second : producer.maxFailure with
      | some failure =>
        simp [Sums.collect, Producer.getSampleRate, Producer.getMaxSampleRate, Producer.answers, first, second]
      | none =>
        simp [Sums.collect, Producer.getSampleRate, Producer.getMaxSampleRate, Producer.answers, first, second,
          maxima]
        omega

theorem getValue_eq : getValue producers =
    if (maxima (producers.filter Producer.answers)).sum = 0 then (0 : ℚ)
    else 100 * ((rates (producers.filter Producer.answers)).sum +
      (rates (producers.filter Producer.halfAnswers)).sum : ℚ) / (maxima (producers.filter Producer.answers)).sum := by
  simp only [getValue, collectAll, collect_actual, collect_max, Int.zero_add, Int.cast_add]

theorem rates_nonneg : ∀ rate ∈ rates producers, 0 ≤ rate := by
  intro rate member
  obtain ⟨producer, _, rfl⟩ := List.mem_map.mp member
  exact Arithmetic.toInt_nonneg.mp producer.low

theorem maxima_nonneg : ∀ max ∈ maxima producers, 0 ≤ max := by
  intro max member
  obtain ⟨producer, _, rfl⟩ := List.mem_map.mp member
  exact (Arithmetic.toInt_nonneg.mp producer.low).trans (Int32.le_iff_toInt_le.mp producer.high)

theorem rates_le_maxima : (rates producers).sum ≤ (maxima producers).sum := by
  apply List.sum_le_sum
  intro producer _
  exact Int32.le_iff_toInt_le.mp producer.high

theorem maxima_zero_iff : (maxima (producers.filter Producer.answers)).sum = 0 ↔
    ∀ producer ∈ producers, producer.answers = true → producer.max = 0 := by
  rw [Arithmetic.sum_eq_zero_iff_of_nonneg (maxima_nonneg _)]
  simp only [maxima, List.forall_mem_map, List.mem_filter, and_imp, ← Int32.toInt_inj, Int32.toInt_zero]

theorem halfRates_zero_iff : (rates (producers.filter Producer.halfAnswers)).sum = 0 ↔
    ∀ producer ∈ producers, producer.halfAnswers = true → producer.rate = 0 := by
  rw [Arithmetic.sum_eq_zero_iff_of_nonneg (rates_nonneg _)]
  simp only [rates, List.forall_mem_map, List.mem_filter, and_imp, ← Int32.toInt_inj, Int32.toInt_zero]

end Sums

section Registry

open Servlet (SampleProducer Registry)

theorem sampleRate_range (p : SampleProducer) (taskInterval : Int) :
    0 ≤ p.getSampleRate taskInterval ∧ p.getSampleRate taskInterval ≤ p.getMaxSampleRate := by
  have low := p.low
  have positive := p.maxSampleRate_range.1
  rw [SampleProducer.getSampleRate]
  by_cases stopped : taskInterval < p.minTaskInterval
  · rw [if_pos stopped]
    omega
  · rw [if_neg stopped, SampleProducer.getMaxSampleRate, Int.tdiv_eq_ediv_of_nonneg (by decide),
      Int.tdiv_eq_ediv_of_nonneg (by decide)]
    have rate : 0 ≤ 1000000 / taskInterval := Int.ediv_nonneg (by decide) (by omega)
    refine ⟨rate, (Int.le_ediv_iff_mul_le (by omega)).mpr ?_⟩
    calc 1000000 / taskInterval * p.minTaskInterval
        ≤ 1000000 / taskInterval * taskInterval := Int.mul_le_mul_of_nonneg_left (by omega) rate
      _ ≤ 1000000 := Int.ediv_mul_le _ (by omega)

variable (instances : Nat → SampleProducer) (s : Registry)

theorem registered_rates (producer : Nat) :
    (Int32.ofInt ((instances producer).getSampleRate (s.taskInterval producer))).toInt =
        (instances producer).getSampleRate (s.taskInterval producer) ∧
      (Int32.ofInt (instances producer).getMaxSampleRate).toInt = (instances producer).getMaxSampleRate := by
  have range := sampleRate_range (instances producer) (s.taskInterval producer)
  have top := (instances producer).maxSampleRate_range.2
  constructor <;> exact Int32.toInt_ofInt_of_le (by omega) (by omega)

def registeredProducer (Failure : Type) (producer : Nat) : Producer Failure where
  rate := Int32.ofInt ((instances producer).getSampleRate (s.taskInterval producer))
  max := Int32.ofInt (instances producer).getMaxSampleRate
  low := by
    rw [Arithmetic.toInt_nonneg, (registered_rates instances s producer).1]
    exact (sampleRate_range _ _).1
  high := by
    rw [Int32.le_iff_toInt_le, (registered_rates instances s producer).1, (registered_rates instances s producer).2]
    exact (sampleRate_range _ _).2
  rateFailure := none
  maxFailure := none

theorem registry_getValue (Failure : Type) :
    s.getValue instances = getValue (s.aggregatorProducers.map (registeredProducer instances s Failure)) := by
  have answering : (s.aggregatorProducers.map (registeredProducer instances s Failure)).filter Producer.answers =
      s.aggregatorProducers.map (registeredProducer instances s Failure) := by
    simp [Producer.answers, registeredProducer]
  have half : (s.aggregatorProducers.map (registeredProducer instances s Failure)).filter Producer.halfAnswers =
      [] := by
    simp [Producer.halfAnswers, registeredProducer]
  have counted : rates (s.aggregatorProducers.map (registeredProducer instances s Failure)) =
      s.aggregatorProducers.map fun producer => (instances producer).getSampleRate (s.taskInterval producer) := by
    simp [rates, registeredProducer, registered_rates instances s]
  have bounded : maxima (s.aggregatorProducers.map (registeredProducer instances s Failure)) =
      s.aggregatorProducers.map fun producer => (instances producer).getMaxSampleRate := by
    simp [maxima, registeredProducer, registered_rates instances s]
  rw [getValue_eq, answering, half, counted, bounded]
  simp [Registry.getValue, rates]

end Registry

/-- The half-counted producers are the whole error of the ratio. -/
theorem getValue_ratio_iff (producers : List (Producer Failure)) :
    TrueRatio producers ↔
      (∀ producer ∈ producers, producer.answers = true → producer.max = 0) ∨
        ∀ producer ∈ producers, producer.halfAnswers = true → producer.rate = 0 := by
  rw [← maxima_zero_iff, ← halfRates_zero_iff]
  have low := List.sum_nonneg (rates_nonneg (producers.filter Producer.answers))
  have top := List.sum_nonneg (maxima_nonneg (producers.filter Producer.answers))
  have high := rates_le_maxima (producers.filter Producer.answers)
  simp only [TrueRatio, getValue_eq, ratio]
  generalize (rates (producers.filter Producer.answers)).sum = actual at *
  generalize (rates (producers.filter Producer.halfAnswers)).sum = half at *
  generalize (maxima (producers.filter Producer.answers)).sum = max at *
  by_cases zero : max = 0
  · simp [zero]
  · have positive : (0 : ℚ) < max := by
      have : 0 < max := by omega
      exact_mod_cast this
    rw [if_neg zero, if_neg zero]
    constructor
    · rintro ⟨same, _⟩
      right
      have equal : (100 : ℚ) * (actual + half) = 100 * actual := by
        rwa [div_left_inj' positive.ne'] at same
      have gone : (half : ℚ) = 0 := by linarith
      exact_mod_cast gone
    · rintro (none | gone)
      · exact absurd none zero
      · have least : (0 : ℚ) ≤ actual := by exact_mod_cast low
        have most : (actual : ℚ) ≤ max := by exact_mod_cast high
        rw [gone, Int.cast_zero, add_zero]
        refine ⟨rfl, by positivity, ?_⟩
        rw [div_le_iff₀ positive]
        linarith

theorem getValue_half_counted :
    ¬ TrueRatio [(⟨5, 10, by decide, by decide, none, none⟩ : Producer Unit),
      ⟨10, 10, by decide, by decide, none, some ()⟩] ∧
    getValue [(⟨5, 10, by decide, by decide, none, none⟩ : Producer Unit),
      ⟨10, 10, by decide, by decide, none, some ()⟩] = 150 := by
  constructor
  · rintro ⟨_, _, high⟩
    revert high
    decide +kernel
  · decide +kernel

end UtilitizationAggegrator
