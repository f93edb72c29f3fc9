import Demonstrator.Java.AutoScaler.Decision

namespace AutoScaler

open ConfigUtils Coordinator

/-- What one run of `checkQueue` gets from outside: the utilisation, and the answer of the
    coordinator in case `scale` asks for the processor count. -/
structure Reading where
  value : ℚ
  count : Except Failure Int32

namespace AutoScalerImpl

def poll (scaler : AutoScalerImpl) (reading : Reading) : AutoScalerImpl × Option Int32 :=
  let (next, change) := scaler.checkQueue reading.value
  match change with
  | none => (next, none)
  | some relReplicas =>
    match reading.count with
    -- the exception ends the check before its request
    | .error _ => (next, none)
    | .ok current => (next, some (newReplicas .processor current relReplicas))

def polled (scaler : AutoScalerImpl) (readings : List Reading) : AutoScalerImpl :=
  readings.foldl (fun scaler reading => (scaler.poll reading).1) scaler

def requests : AutoScalerImpl → List Reading → List (Option Int32)
  | _, [] => []
  | scaler, reading :: later => (scaler.poll reading).2 :: requests (scaler.poll reading).1 later

@[simp] theorem poll_state (scaler : AutoScalerImpl) (reading : Reading) :
    (scaler.poll reading).1 = (scaler.checkQueue reading.value).1 := by
  unfold poll
  dsimp only
  split
  · rfl
  · split <;> rfl

@[simp] theorem poll_config (scaler : AutoScalerImpl) (reading : Reading) :
    (scaler.poll reading).1.config = scaler.config := by
  rw [poll_state]
  rfl

@[simp] theorem poll_oldValue (scaler : AutoScalerImpl) (reading : Reading) :
    (scaler.poll reading).1.oldValue = reading.value := by
  rw [poll_state]
  rfl

theorem polled_config (scaler : AutoScalerImpl) (readings : List Reading) :
    (scaler.polled readings).config = scaler.config := by
  induction readings generalizing scaler with
  | nil => rfl
  | cons reading later ih =>
    have rest := ih (scaler.poll reading).1
    rw [poll_config] at rest
    exact rest

end AutoScalerImpl

/-- In the band a flat slope asks for nothing, unless `slope1` is zero: a slope of zero is then not
    above `-slope1`, and counts as falling. -/
theorem relReplicas_flat (config : AutoScalerConfig) (value : ℚ)
    (low : config.queueLowBarrier.toInt ≤ value) (high : value ≤ config.queueHighBarrier.toInt) :
    relReplicas config 0 value =
      if 0 < config.slope1 ∨ value = config.queueHighBarrier.toInt then none else some (-1) := by
  have rising := config.rising
  have slopes := config.slopes
  have notSteep : ¬ config.slope2 < 0 := by linarith
  have notRising : ¬ config.slope1 < 0 := by linarith
  unfold relReplicas
  rw [if_neg notSteep, if_neg notRising]
  by_cases positive : 0 < config.slope1
  · rw [if_pos (by linarith), if_neg (by linarith), if_neg (by linarith), if_pos (.inl positive)]
  · rw [if_neg (by linarith)]
    by_cases top : value = config.queueHighBarrier.toInt
    · have notBelow : ¬ value < config.queueHighBarrier.toInt := by linarith
      rw [if_neg (fun falling => notBelow falling.2), if_neg notBelow, if_pos (.inr top)]
    · have below : value < config.queueHighBarrier.toInt := lt_of_le_of_ne high top
      have gentle : -config.slope2 < 0 := by linarith
      rw [if_pos ⟨gentle, below⟩, if_neg (not_or.mpr ⟨positive, top⟩)]

theorem poll_flat (scaler : AutoScalerImpl) (reading : Reading) (steady : reading.value = scaler.oldValue)
    (low : scaler.config.queueLowBarrier.toInt ≤ reading.value)
    (high : reading.value ≤ scaler.config.queueHighBarrier.toInt) :
    (scaler.poll reading).2 = none ↔
      0 < scaler.config.slope1 ∨ reading.value = scaler.config.queueHighBarrier.toInt ∨
        ∃ failure, reading.count = .error failure := by
  have flat := relReplicas_flat scaler.config reading.value low high
  have slope : (reading.value - scaler.oldValue) / scaler.config.pollInterval.toInt = 0 := by
    rw [steady, sub_self, zero_div]
  simp only [AutoScalerImpl.poll, AutoScalerImpl.checkQueue, slope, flat]
  by_cases idle : 0 < scaler.config.slope1 ∨ reading.value = scaler.config.queueHighBarrier.toInt
  · rw [if_pos idle]
    rcases idle with positive | top
    · simp [positive]
    · simp [top]
  · have notIdle := not_or.mp idle
    rw [if_neg idle]
    cases answer : reading.count with
    | error failure => exact ⟨fun _ => .inr (.inr ⟨failure, rfl⟩), fun _ => rfl⟩
    | ok current => simp [notIdle.1, notIdle.2]

theorem requests_flat (scaler : AutoScalerImpl) (later : List Reading)
    (steady : ∀ reading ∈ later, reading.value = scaler.oldValue)
    (low : scaler.config.queueLowBarrier.toInt ≤ scaler.oldValue)
    (high : scaler.oldValue ≤ scaler.config.queueHighBarrier.toInt) :
    (∀ request ∈ scaler.requests later, request = none) ↔
      0 < scaler.config.slope1 ∨ scaler.oldValue = scaler.config.queueHighBarrier.toInt ∨
        ∀ reading ∈ later, ∃ failure, reading.count = .error failure := by
  induction later generalizing scaler with
  | nil => simp [AutoScalerImpl.requests]
  | cons reading later ih =>
    have value := steady reading (by simp)
    have first := poll_flat scaler reading value (by rwa [value]) (by rwa [value])
    have rest := ih (scaler.poll reading).1 (by
      intro other member
      rw [AutoScalerImpl.poll_oldValue, value]
      exact steady other (by simp [member]))
    simp only [AutoScalerImpl.poll_config, AutoScalerImpl.poll_oldValue] at rest
    rw [value] at first rest
    rw [AutoScalerImpl.requests, List.forall_mem_cons, List.forall_mem_cons, first, rest low high]
    grind

/-- Once the utilisation stays at one value in the band, no later check makes a request, exactly
    when `slope1` is positive, the value is the high barrier, or the coordinator never answers. -/
theorem steady_queue_left_alone_iff (config : AutoScalerConfig) (before later : List Reading) (kth : Reading)
    (value : ℚ) (steady : ∀ reading ∈ kth :: later, reading.value = value)
    (low : config.queueLowBarrier.toInt ≤ value) (high : value ≤ config.queueHighBarrier.toInt) :
    (∀ request ∈ ((AutoScalerImpl.create config).polled (before ++ [kth])).requests later, request = none) ↔
      0 < config.slope1 ∨ value = config.queueHighBarrier.toInt ∨
        ∀ reading ∈ later, ∃ failure, reading.count = .error failure := by
  have reached : ((AutoScalerImpl.create config).polled (before ++ [kth])).config = config :=
    AutoScalerImpl.polled_config _ _
  have last : ((AutoScalerImpl.create config).polled (before ++ [kth])).oldValue = value := by
    rw [AutoScalerImpl.polled, List.foldl_append]
    simp only [List.foldl_cons, List.foldl_nil, AutoScalerImpl.poll_oldValue]
    exact steady kth (by simp)
  have requests := requests_flat ((AutoScalerImpl.create config).polled (before ++ [kth])) later (by
    intro reading member
    rw [last]
    exact steady reading (by simp [member]))
  rw [reached, last] at requests
  exact requests low high

theorem steady_queue_left_alone_default :
    0 < AutoScalerConfig.default.slope1 ∧
      ∀ request ∈ ((AutoScalerImpl.create .default).polled ([⟨12, .ok 3⟩] ++ [⟨20, .ok 3⟩])).requests
        [⟨20, .ok 3⟩, ⟨20, .ok 3⟩], request = none := by
  have rising : 0 < AutoScalerConfig.default.slope1 := by decide
  refine ⟨rising, ?_⟩
  exact (steady_queue_left_alone_iff .default [⟨12, .ok 3⟩] [⟨20, .ok 3⟩, ⟨20, .ok 3⟩] ⟨20, .ok 3⟩ 20 (by simp)
    (by decide) (by decide)).mpr (.inl rising)

def zeroSlope : Dictionary := fun key =>
  if key = keyPollInterval then some "5"
  else if key = keyQueueLowBarrier then some "10"
  else if key = keyQueueHighBarrier then some "35"
  else if key = keyQueueSlope1 then some "0"
  else if key = keyQueueSlope2 then some "10"
  else none

def zeroSlopeConfig : AutoScalerConfig where
  pollInterval := 5
  queueLowBarrier := 10
  queueHighBarrier := 35
  slope1 := 0
  slope2 := 10
  polls := AutoScalerConfig.default.polls
  low := AutoScalerConfig.default.low
  barriers := AutoScalerConfig.default.barriers
  high := AutoScalerConfig.default.high
  rising := by norm_num
  slopes := by norm_num
  steepest := AutoScalerConfig.default.steepest

/-- A configuration with `slope1` zero is accepted, and a utilisation of 20 % that never changes
    makes the scaler remove one processor with every check. -/
theorem steady_queue_shed :
    AutoScalerConfig.ofProperties zeroSlope = .ok zeroSlopeConfig ∧
      zeroSlopeConfig.queueLowBarrier.toInt ≤ (20 : ℚ) ∧ (20 : ℚ) ≤ zeroSlopeConfig.queueHighBarrier.toInt ∧
      ((AutoScalerImpl.create zeroSlopeConfig).polled [⟨20, .ok 4⟩]).requests [⟨20, .ok 4⟩, ⟨20, .ok 3⟩] =
        [some 3, some 2] := by
  refine ⟨rfl, ?_, ?_, ?_⟩
  · decide
  · decide
  · decide +kernel

end AutoScaler
