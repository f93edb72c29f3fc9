import Demonstrator.Arithmetic.Int32
import Demonstrator.Arithmetic.Truncation
import Demonstrator.Transition.Runs

open Arithmetic Transition

/-- The intervals of an `AbstractSampleProducer`, in microseconds. -/
structure AbstractSampleProducer where
  taskInterval : Int32
  minTaskInterval : Int32
  low : 1 ≤ minTaskInterval
  high : minTaskInterval ≤ 1000000

namespace AbstractSampleProducer

def getMaxSampleRate (p : AbstractSampleProducer) : Option Int32 := divide 1000000 p.minTaskInterval

def getSampleRate (p : AbstractSampleProducer) : Option Int32 :=
  if p.taskInterval < p.minTaskInterval then some 0 else divide 1000000 p.taskInterval

/-- Rate 0 makes the interval lie outside of the valid range. -/
def setSampleRate (p : AbstractSampleProducer) (rate : Int32) : Option AbstractSampleProducer :=
  if rate = 0 then some { p with taskInterval := p.minTaskInterval - 1 }
  else (divide 1000000 rate).map fun taskInterval => { p with taskInterval }

structure Pass where
  produces : Bool
  millis : Int32
  nanos : Int32
  deriving DecidableEq, Repr

def pass (p : AbstractSampleProducer) : Pass :=
  let millis := max 1 (p.taskInterval / 1000)
  { produces := decide (p.minTaskInterval ≤ p.taskInterval)
    millis
    nanos := max 0 (p.taskInterval * 1000 - millis * 1000000) }

def intervalFor (least rate : Int) : Int := if rate = 0 then least - 1 else Int.tdiv 1000000 rate

theorem intervalFor_of_pos {least rate : Int} (positive : 0 < rate) : intervalFor least rate = 1000000 / rate := by
  rw [intervalFor, if_neg positive.ne', Int.tdiv_eq_ediv_of_nonneg (by decide)]

theorem intervalFor_range {least : Int} (low : 1 ≤ least) (high : least ≤ 1000000) (rate : Int) :
    -1000000 ≤ intervalFor least rate ∧ intervalFor least rate ≤ 1000000 := by
  have magnitude := Int.natAbs_tdiv_le_natAbs 1000000 rate
  unfold intervalFor
  split <;> omega

/-- Negative rates and the sentinel of rate 0 lie below every valid interval. -/
theorem le_intervalFor_iff {least : Int} (low : 1 ≤ least) (rate : Int) :
    least ≤ intervalFor least rate ↔ 1 ≤ rate ∧ rate ≤ 1000000 / least := by
  rcases lt_trichotomy rate 0 with negative | rfl | positive
  · have stopped : Int.tdiv 1000000 rate ≤ 0 := Int.tdiv_nonpos_of_nonneg_of_nonpos (by decide) negative.le
    rw [intervalFor, if_neg negative.ne]
    omega
  · rw [intervalFor, if_pos rfl]
    omega
  · rw [intervalFor_of_pos positive, le_div_comm (by omega) positive]
    omega

theorem divide_million {divisor : Int32} (nonzero : divisor ≠ 0) :
    ∃ quotient, divide 1000000 divisor = some quotient ∧ quotient.toInt = Int.tdiv 1000000 divisor.toInt := by
  obtain ⟨quotient, divided, value⟩ := divide_of_ne nonzero (show (1000000 : Int32) ≠ Int32.minValue by decide)
  have million : (1000000 : Int32).toInt = 1000000 := rfl
  rw [million] at value
  exact ⟨quotient, divided, value⟩

section Calls

variable (p : AbstractSampleProducer)

theorem minTaskInterval_range : 1 ≤ p.minTaskInterval.toInt ∧ p.minTaskInterval.toInt ≤ 1000000 :=
  ⟨Int32.le_iff_toInt_le.mp p.low, Int32.le_iff_toInt_le.mp p.high⟩

theorem getMaxSampleRate_some :
    ∃ maximum, p.getMaxSampleRate = some maximum ∧ maximum.toInt = 1000000 / p.minTaskInterval.toInt := by
  have range := p.minTaskInterval_range
  have nonzero : p.minTaskInterval ≠ 0 := by
    rintro zero
    rw [zero] at range
    exact absurd range.1 (by decide)
  obtain ⟨maximum, divided, quotient⟩ := divide_million nonzero
  refine ⟨maximum, divided, quotient.trans ?_⟩
  exact Int.tdiv_eq_ediv_of_nonneg (by decide)

theorem getSampleRate_some :
    ∃ reported, p.getSampleRate = some reported ∧ reported.toInt =
      if p.taskInterval.toInt < p.minTaskInterval.toInt then 0 else 1000000 / p.taskInterval.toInt := by
  have range := p.minTaskInterval_range
  rw [getSampleRate]
  by_cases stopped : p.taskInterval < p.minTaskInterval
  · refine ⟨0, if_pos stopped, ?_⟩
    rw [if_pos (Int32.lt_iff_toInt_lt.mp stopped)]
    rfl
  · have order : ¬ p.taskInterval.toInt < p.minTaskInterval.toInt := fun less =>
      stopped (Int32.lt_iff_toInt_lt.mpr less)
    have nonzero : p.taskInterval ≠ 0 := by
      rintro zero
      rw [zero, Int32.toInt_zero] at order
      omega
    obtain ⟨reported, divided, quotient⟩ := divide_million nonzero
    refine ⟨reported, (if_neg stopped).trans divided, quotient.trans ?_⟩
    rw [if_neg order]
    exact Int.tdiv_eq_ediv_of_nonneg (by decide)

theorem setSampleRate_some (rate : Int32) :
    ∃ q, p.setSampleRate rate = some q ∧ q.minTaskInterval = p.minTaskInterval ∧
      q.taskInterval.toInt = intervalFor p.minTaskInterval.toInt rate.toInt := by
  have range := p.minTaskInterval_range
  rw [setSampleRate, intervalFor]
  by_cases stop : rate = 0
  · subst stop
    refine ⟨_, if_pos rfl, rfl, ?_⟩
    have one : (1 : Int32).toInt = 1 := rfl
    rw [if_pos Int32.toInt_zero, toInt_sub_of_range (by omega) (by omega), one]
  · obtain ⟨interval, divided, quotient⟩ := divide_million stop
    refine ⟨{ p with taskInterval := interval }, ?_, rfl, ?_⟩
    · rw [if_neg stop, divided, Option.map_some]
    · have nonzero : rate.toInt ≠ 0 := fun zero => stop (Int32.toInt_inj.mp (zero.trans Int32.toInt_zero.symm))
      rw [if_neg nonzero]
      exact quotient

end Calls

/-- Each call answers, so that no division is by zero. -/
theorem sample_rate_law (p : AbstractSampleProducer) (rate : Int32) :
    ∃ maximum q reported, p.getMaxSampleRate = some maximum ∧ p.setSampleRate rate = some q ∧
      q.getMaxSampleRate = some maximum ∧ q.getSampleRate = some reported ∧
      (q.pass.produces = true ↔ 1 ≤ rate ∧ rate ≤ maximum) ∧
      (1 ≤ rate ∧ rate ≤ maximum → rate ≤ reported ∧ reported ≤ maximum ∧
        (rate.toInt * rate.toInt ≤ 1000000 → reported = rate)) ∧
      (¬ (1 ≤ rate ∧ rate ≤ maximum) → reported = 0) := by
  obtain ⟨maximum, most, quotient⟩ := p.getMaxSampleRate_some
  obtain ⟨q, set, same, interval⟩ := p.setSampleRate_some rate
  obtain ⟨reported, answer, value⟩ := q.getSampleRate_some
  have low := p.minTaskInterval_range.1
  have one : (1 : Int32).toInt = 1 := rfl
  have valid : 1 ≤ rate ∧ rate ≤ maximum ↔ 1 ≤ rate.toInt ∧ rate.toInt ≤ 1000000 / p.minTaskInterval.toInt := by
    rw [Int32.le_iff_toInt_le, Int32.le_iff_toInt_le, quotient, one]
  have reaches := le_intervalFor_iff low rate.toInt
  rw [← interval] at reaches
  rw [same] at value
  refine ⟨maximum, q, reported, most, set, ?_, answer, ?_, ?_, ?_⟩
  · rw [getMaxSampleRate, same]
    exact most
  · rw [valid, ← reaches, pass, decide_eq_true_eq, same, Int32.le_iff_toInt_le]
  · intro within
    have positive : 0 < rate.toInt := by
      have := (valid.mp within).1
      omega
    have reached := reaches.mpr (valid.mp within)
    rw [if_neg (by omega)] at value
    rw [intervalFor_of_pos positive] at interval
    have run : 0 < 1000000 / rate.toInt := by omega
    have divided : reported.toInt = 1000000 / (1000000 / rate.toInt) := by rw [value, interval]
    have least := le_div_div positive run
    refine ⟨?_, ?_, ?_⟩
    · rw [Int32.le_iff_toInt_le]
      omega
    · rw [Int32.le_iff_toInt_le, divided, quotient]
      exact div_le_div_of_le (by omega) (interval ▸ reached) (by omega)
    · intro small
      exact Int32.toInt_inj.mp (divided.trans (div_div_of_sq_le positive small))
  · intro outside
    have stopped : q.taskInterval.toInt < p.minTaskInterval.toInt := by
      have := mt reaches.mp (mt valid.mpr outside)
      omega
    rw [if_pos stopped] at value
    exact Int32.toInt_inj.mp value

structure SleepsExactly (p : AbstractSampleProducer) : Prop where
  quotient : (p.taskInterval / 1000).toInt = p.taskInterval.toInt.tdiv 1000
  product : (p.taskInterval * 1000).toInt = p.taskInterval.toInt * 1000
  whole : (p.pass.millis * 1000000).toInt = p.pass.millis.toInt * 1000000
  difference : (p.taskInterval * 1000 - p.pass.millis * 1000000).toInt =
    p.taskInterval.toInt * 1000 - p.pass.millis.toInt * 1000000
  millis : 1 ≤ p.pass.millis.toInt
  nanos : 0 ≤ p.pass.nanos.toInt ∧ p.pass.nanos.toInt ≤ 999999
  duration : p.pass.millis.toInt * 1000000 + p.pass.nanos.toInt = max 1000000 (1000 * p.taskInterval.toInt)

/-- The split of an interval. Below a millisecond, negative intervals included, the quotient does not count. -/
theorem split_interval {interval millis nanos : Int} (low : -1000000 ≤ interval) (high : interval ≤ 1000000)
    (first : millis = max 1 (interval.tdiv 1000)) (second : nanos = max 0 (interval * 1000 - millis * 1000000)) :
    1 ≤ millis ∧ millis ≤ 1000 ∧ (0 ≤ nanos ∧ nanos ≤ 999999) ∧
      millis * 1000000 + nanos = max 1000000 (1000 * interval) := by
  by_cases negative : interval < 0
  · have mirrored : 0 ≤ (-interval).tdiv 1000 := Int.tdiv_nonneg (by omega) (by decide)
    rw [Int.neg_tdiv] at mirrored
    omega
  · rw [Int.tdiv_eq_ediv_of_nonneg (by omega)] at first
    omega

theorem sleepsExactly_of_range {p : AbstractSampleProducer} (low : -1000000 ≤ p.taskInterval.toInt)
    (high : p.taskInterval.toInt ≤ 1000000) : p.SleepsExactly := by
  have quotient : (p.taskInterval / 1000).toInt = p.taskInterval.toInt.tdiv 1000 :=
    Int32.toInt_div_of_ne_right _ _ (by decide)
  have product : (p.taskInterval * 1000).toInt = p.taskInterval.toInt * 1000 :=
    toInt_mul_literal rfl low high (by decide) (by decide)
  have millis : p.pass.millis.toInt = max 1 (p.taskInterval.toInt.tdiv 1000) := by
    rw [← quotient]
    exact toInt_max 1 _
  obtain ⟨positive, most, _⟩ := split_interval low high millis rfl
  have whole : (p.pass.millis * 1000000).toInt = p.pass.millis.toInt * 1000000 :=
    toInt_mul_literal rfl (show -1000 ≤ _ by omega) most (by decide) (by decide)
  have difference : (p.taskInterval * 1000 - p.pass.millis * 1000000).toInt =
      p.taskInterval.toInt * 1000 - p.pass.millis.toInt * 1000000 := by
    rw [toInt_sub_of_range, product, whole]
    all_goals
      rw [product, whole]
      omega
  have nanos : p.pass.nanos.toInt = max 0 (p.taskInterval.toInt * 1000 - p.pass.millis.toInt * 1000000) := by
    rw [← difference]
    exact toInt_max 0 _
  obtain ⟨_, _, legal, exactly⟩ := split_interval low high millis nanos
  exact ⟨quotient, product, whole, difference, positive, legal, exactly⟩

structure InRange (p : AbstractSampleProducer) : Prop where
  low : -1000000 ≤ p.taskInterval.toInt
  high : p.taskInterval.toInt ≤ 1000000

theorem inRange_setSampleRate (p : AbstractSampleProducer) (rate : Int32) (q : AbstractSampleProducer)
    (_ : p.InRange) (h : p.setSampleRate rate = some q) : q.InRange := by
  obtain ⟨next, set, _, interval⟩ := p.setSampleRate_some rate
  cases set.symm.trans h
  have range := intervalFor_range p.minTaskInterval_range.1 p.minTaskInterval_range.2 rate.toInt
  rw [← interval] at range
  exact ⟨range.1, range.2⟩

theorem exec_setSampleRate (p : AbstractSampleProducer) (rates : List Int32) :
    ∃ q, exec setSampleRate p rates = some q := by
  induction rates generalizing p with
  | nil => exact ⟨p, rfl⟩
  | cons rate rest ih =>
    obtain ⟨next, set, _⟩ := p.setSampleRate_some rate
    obtain ⟨q, later⟩ := ih next
    exact ⟨q, exec_cons_some.mpr ⟨next, set, later⟩⟩

theorem production_sleeps_exactly (p : AbstractSampleProducer) (low : 0 ≤ p.taskInterval)
    (high : p.taskInterval ≤ 1000000) (rates : List Int32) :
    ∃ q, exec setSampleRate p rates = some q ∧ q.SleepsExactly := by
  rw [Int32.le_iff_toInt_le] at low high
  have zero : (0 : Int32).toInt = 0 := rfl
  have million : (1000000 : Int32).toInt = 1000000 := rfl
  obtain ⟨q, run⟩ := p.exec_setSampleRate rates
  have range := exec_invariant inRange_setSampleRate ⟨by omega, by omega⟩ run
  exact ⟨q, run, sleepsExactly_of_range range.low range.high⟩

def periodicSampleProducer : AbstractSampleProducer := ⟨10000, 1000, by decide, by decide⟩

def burstSampleProducer : AbstractSampleProducer := ⟨500000, 1000, by decide, by decide⟩

theorem production_sleeps_exactly_producers :
    ((exec setSampleRate periodicSampleProducer [0, -3, 7]).map (fun q => (q.taskInterval, q.pass)) =
        some (142857, ⟨true, 142, 857000⟩) ∧
      ∃ q, exec setSampleRate periodicSampleProducer [0, -3, 7] = some q ∧ q.SleepsExactly) ∧
    (exec setSampleRate burstSampleProducer [-1]).map (fun q => (q.taskInterval, q.pass)) =
        some (-1000000, ⟨false, 1, 0⟩) ∧
      ∃ q, exec setSampleRate burstSampleProducer [-1] = some q ∧ q.SleepsExactly := by
  refine ⟨⟨by decide, ?_⟩, by decide, ?_⟩
  · exact production_sleeps_exactly periodicSampleProducer (by decide) (by decide) [0, -3, 7]
  · exact production_sleeps_exactly burstSampleProducer (by decide) (by decide) [-1]

end AbstractSampleProducer
