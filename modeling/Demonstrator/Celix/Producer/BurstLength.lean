import Demonstrator.Arithmetic.Truncation
import Demonstrator.Celix.Producer.Rounds
import Demonstrator.Transition.Runs

namespace Celix.ProducerRounds

open Arithmetic Transition

def MIN_BURST_LEN : UInt32 := 10

def MAX_BURST_LEN : UInt32 := 50

/-- The C library: the values of `rand` are those up to `RAND_MAX`. -/
structure Stdlib where
  RAND_MAX : Nat
  positive : 0 < RAND_MAX

/-- `producer_rand_range`, from the value of `rand` and with exact numbers. The conversion to an unsigned int is not
    defined for a number that is out of range. -/
def randRange (lib : Stdlib) (min max : UInt32) (rand : Nat) : Option UInt32 :=
  let scaled : ℚ := rand / lib.RAND_MAX
  let value := truncate ((max - min + 1).toNat * scaled + min.toNat)
  if value < 2 ^ 32 then some (UInt32.ofNat value.toNat) else none

variable {Sample : Type}

structure Producers (Sample : Type) where
  system : System Sample
  prepared : List (List Sample)

def Producers.initial : Producers Sample := ⟨.initial, []⟩

inductive Pass (Sample : Type) where
  | burst (thread rand : Nat) (fillSample : Nat → Sample) (calloc add : Nat → Bool)
  | other (action : Action Sample)

def pass (lib : Stdlib) (service : Nat → Bool) (s : Producers Sample) : Pass Sample → Option (Producers Sample)
  | .burst thread rand fillSample calloc add =>
    if rand ≤ lib.RAND_MAX then
      (randRange lib MIN_BURST_LEN MAX_BURST_LEN rand).bind fun burstLen =>
        let burst := (List.range burstLen.toNat).map fillSample
        (step service s.system (.putAll thread burst calloc add)).map fun system =>
          { system, prepared := s.prepared ++ [burst] }
    else none
  | .other (.putAll _ _ _ _) => none
  | .other action => (step service s.system action).map fun system => { s with system }

def RandRangeWithin (lib : Stdlib) (min max : UInt32) (rand : Nat) : Prop :=
  ∃ value, randRange lib min max rand = some value ∧ min ≤ value ∧ value ≤ max

def WithinBounds (burst : List Sample) : Prop :=
  MIN_BURST_LEN.toNat ≤ burst.length ∧ burst.length ≤ MAX_BURST_LEN.toNat

def Pass.Below (lib : Stdlib) : Pass Sample → Prop
  | .burst _ rand _ _ _ => rand ≠ lib.RAND_MAX
  | .other _ => True

theorem truncate_scaled (lib : Stdlib) (range rand min : Nat) :
    truncate (range * ((rand : ℚ) / lib.RAND_MAX) + min) = ((range * rand / lib.RAND_MAX + min : Nat) : Int) := by
  have product : (range : ℚ) * (rand / lib.RAND_MAX) = ((range * rand : Nat) : ℚ) / lib.RAND_MAX := by
    rw [Nat.cast_mul, mul_div_assoc]
  have nonneg : 0 ≤ (range : ℚ) * (rand / lib.RAND_MAX) + min := by positivity
  rw [truncate_of_nonneg nonneg, product, Int.floor_add_natCast, Rat.floor_natCast_div_natCast]
  norm_cast

/-- Only the largest value of `rand` reaches the end of the scaled range. -/
theorem scaled_lt_iff (lib : Stdlib) {range rand : Nat} (positive : 0 < range) (drawn : rand ≤ lib.RAND_MAX) :
    range * rand / lib.RAND_MAX < range ↔ rand ≠ lib.RAND_MAX := by
  rw [Nat.div_lt_iff_lt_mul lib.positive, Nat.mul_lt_mul_left positive]
  omega

theorem toNat_range {min max : UInt32} (order : min ≤ max) (fits : max.toNat - min.toNat + 1 < 2 ^ 32) :
    (max - min + 1).toNat = max.toNat - min.toNat + 1 := by
  have one : (1 : UInt32).toNat = 1 := rfl
  rw [UInt32.toNat_add, UInt32.toNat_sub_of_le _ _ order, one]
  exact Nat.mod_eq_of_lt fits

theorem randRange_eq (lib : Stdlib) {min max : UInt32} (order : min ≤ max)
    (fits : max.toNat - min.toNat + 1 < 2 ^ 32) (rand : Nat) :
    randRange lib min max rand =
      let value := (max.toNat - min.toNat + 1) * rand / lib.RAND_MAX + min.toNat
      if value < 2 ^ 32 then some (UInt32.ofNat value) else none := by
  simp only [randRange, toNat_range order fits, truncate_scaled, Int.toNat_natCast]
  norm_cast

theorem randRangeWithin_iff (lib : Stdlib) {min max : UInt32} (order : min ≤ max)
    (fits : max.toNat - min.toNat + 1 < 2 ^ 32) {rand : Nat} (drawn : rand ≤ lib.RAND_MAX) :
    RandRangeWithin lib min max rand ↔ rand ≠ lib.RAND_MAX := by
  have below := UInt32.le_iff_toNat_le.mp order
  have top := max.toNat_lt
  rw [← scaled_lt_iff lib (Nat.succ_pos (max.toNat - min.toNat)) drawn, RandRangeWithin, randRange_eq lib order fits]
  generalize scaled : (max.toNat - min.toNat + 1) * rand / lib.RAND_MAX = offset
  constructor
  · rintro ⟨value, converted, _, most⟩
    dsimp only at converted
    split at converted <;> cases converted
    rw [UInt32.le_iff_toNat_le, UInt32.toNat_ofNat_of_lt' (by assumption)] at most
    omega
  · intro inside
    have defined : offset + min.toNat < 2 ^ 32 := by omega
    refine ⟨UInt32.ofNat (offset + min.toNat), if_pos defined, ?_, ?_⟩
    all_goals
      rw [UInt32.le_iff_toNat_le, UInt32.toNat_ofNat_of_lt' defined]
      omega

theorem burstLen_within_iff (lib : Stdlib) {rand : Nat} {burstLen : UInt32} (drawn : rand ≤ lib.RAND_MAX)
    (given : randRange lib MIN_BURST_LEN MAX_BURST_LEN rand = some burstLen) (fillSample : Nat → Sample) :
    WithinBounds ((List.range burstLen.toNat).map fillSample) ↔ rand ≠ lib.RAND_MAX := by
  rw [← randRangeWithin_iff lib (by decide : MIN_BURST_LEN ≤ MAX_BURST_LEN) (by decide) drawn, WithinBounds,
    List.length_map, List.length_range, RandRangeWithin]
  constructor
  · rintro ⟨low, high⟩
    exact ⟨burstLen, given, UInt32.le_iff_toNat_le.mpr low, UInt32.le_iff_toNat_le.mpr high⟩
  · rintro ⟨value, same, low, high⟩
    cases given.symm.trans same
    exact ⟨UInt32.le_iff_toNat_le.mp low, UInt32.le_iff_toNat_le.mp high⟩

theorem pass_within_iff {lib : Stdlib} {service : Nat → Bool} {s t : Producers Sample} {p : Pass Sample}
    (h : pass lib service s p = some t) :
    (∀ burst ∈ t.prepared, WithinBounds burst) ↔ (∀ burst ∈ s.prepared, WithinBounds burst) ∧ p.Below lib := by
  cases p with
  | burst thread rand fillSample calloc add =>
    simp only [pass] at h
    split at h
    · rename_i drawn
      obtain ⟨burstLen, given, h⟩ := Option.bind_eq_some_iff.mp h
      obtain ⟨system, _, rfl⟩ := Option.map_eq_some_iff.mp h
      rw [List.forall_mem_append, List.forall_mem_singleton, burstLen_within_iff lib drawn given, Pass.Below]
    · cases h
  | other action =>
    have same : t.prepared = s.prepared := by
      cases action with
      | putAll thread burst calloc add => cases h
      | _ =>
        obtain ⟨system, _, rfl⟩ := Option.map_eq_some_iff.mp h
        rfl
    rw [same, Pass.Below, and_true]

theorem exec_within_iff {lib : Stdlib} {service : Nat → Bool} {passes : List (Pass Sample)} {s final : Producers Sample}
    (run : exec (pass lib service) s passes = some final) :
    (∀ burst ∈ final.prepared, WithinBounds burst) ↔
      (∀ burst ∈ s.prepared, WithinBounds burst) ∧ ∀ p ∈ passes, p.Below lib := by
  induction passes generalizing s with
  | nil =>
    cases run
    simp
  | cons p rest ih =>
    obtain ⟨next, first, later⟩ := exec_cons_some.mp run
    rw [ih later, pass_within_iff first, List.forall_mem_cons, and_assoc]

/-- A range is left, and a burst is longer than its bound, just when `rand` gives its largest value. -/
theorem burst_lengths_iff (Sample : Type) (lib : Stdlib) :
    (∀ min max : UInt32, min ≤ max → max.toNat - min.toNat + 1 < 2 ^ 32 → ∀ rand ≤ lib.RAND_MAX,
      (RandRangeWithin lib min max rand ↔ rand ≠ lib.RAND_MAX)) ∧
    ∀ (service : Nat → Bool) (passes : List (Pass Sample)) (final : Producers Sample),
      exec (pass lib service) .initial passes = some final →
        ((∀ burst ∈ final.prepared, WithinBounds burst) ↔ ∀ p ∈ passes, p.Below lib) := by
  constructor
  · intro min max order fits rand drawn
    exact randRangeWithin_iff lib order fits drawn
  · intro service passes final run
    rw [exec_within_iff run]
    exact and_iff_right fun _ member => absurd member List.not_mem_nil

def glibc : Stdlib := ⟨2147483647, by decide⟩

def singleBurst (rand : Nat) : List (Pass Nat) :=
  [.other (.enter 0 .bursts 100 ⟨0, 0⟩), .burst 0 rand id (fun _ => true) fun _ => true]

theorem singleBurst_run {rand : Nat} {burstLen : UInt32} (drawn : rand ≤ glibc.RAND_MAX)
    (given : randRange glibc MIN_BURST_LEN MAX_BURST_LEN rand = some burstLen) :
    ∃ final, exec (pass glibc fun _ => true) .initial (singleBurst rand) = some final ∧
      final.prepared.map List.length = [burstLen.toNat] := by
  simp only [singleBurst, exec, pass, if_pos drawn, given, Option.bind_some]
  refine ⟨_, rfl, ?_⟩
  simp [Producers.initial]

theorem burst_lengths_glibc :
    RandRangeWithin glibc MIN_BURST_LEN MAX_BURST_LEN 2147483646 ∧
      ∃ final, exec (pass glibc fun _ => true) .initial (singleBurst 2147483646) = some final ∧
        final.prepared.map List.length = [50] ∧ ∀ burst ∈ final.prepared, WithinBounds burst := by
  have given : randRange glibc MIN_BURST_LEN MAX_BURST_LEN 2147483646 = some 50 := by
    rw [randRange_eq glibc (by decide) (by decide)]
    decide
  obtain ⟨within, bounds⟩ := burst_lengths_iff Nat glibc
  obtain ⟨final, run, lengths⟩ := singleBurst_run (by decide) given
  refine ⟨(within _ _ (by decide) (by decide) _ (by decide)).mpr (by decide), final, run, lengths, ?_⟩
  apply (bounds _ _ final run).mpr
  simp [singleBurst, Pass.Below, glibc]

theorem burst_too_long :
    randRange glibc MIN_BURST_LEN MAX_BURST_LEN 2147483647 = some 51 ∧
      ¬ RandRangeWithin glibc MIN_BURST_LEN MAX_BURST_LEN 2147483647 ∧
      ∃ final, exec (pass glibc fun _ => true) .initial (singleBurst 2147483647) = some final ∧
        final.prepared.map List.length = [51] := by
  have given : randRange glibc MIN_BURST_LEN MAX_BURST_LEN 2147483647 = some 51 := by
    rw [randRange_eq glibc (by decide) (by decide)]
    decide
  refine ⟨given, ?_, singleBurst_run (by decide) given⟩
  rintro ⟨value, same, _, most⟩
  cases given.symm.trans same
  exact absurd most (by decide)

end Celix.ProducerRounds
