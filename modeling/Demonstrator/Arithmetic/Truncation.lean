import Mathlib.Algebra.BigOperators.Group.List.Basic
import Mathlib.Algebra.Order.Floor.Ring
import Mathlib.Algebra.Order.BigOperators.Group.List
import Mathlib.Data.Rat.Floor
import Mathlib.Tactic.Linarith

namespace Arithmetic

def truncate (value : ℚ) : Int := if 0 ≤ value then ⌊value⌋ else ⌈value⌉

theorem truncate_of_nonneg {value : ℚ} (nonneg : 0 ≤ value) : truncate value = ⌊value⌋ := if_pos nonneg

/-- The quotients of one dividend: a divisor is at most another one's quotient just if it is the other way round. -/
theorem le_div_comm {whole left right : Int} (leftPositive : 0 < left) (rightPositive : 0 < right) :
    left ≤ whole / right ↔ right ≤ whole / left := by
  rw [Int.le_ediv_iff_mul_le rightPositive, Int.le_ediv_iff_mul_le leftPositive, mul_comm]

theorem le_div_div {whole part : Int} (positive : 0 < part) (within : 0 < whole / part) :
    part ≤ whole / (whole / part) :=
  (le_div_comm positive within).mpr le_rfl

theorem div_le_div_of_le {whole least divisor : Int} (positive : 0 < least) (order : least ≤ divisor)
    (within : 0 < whole / divisor) : whole / divisor ≤ whole / least := by
  have reverse : divisor ≤ whole / (whole / divisor) := le_div_div (by omega) within
  exact (le_div_comm within positive).mpr (order.trans reverse)

theorem div_div_of_sq_le {whole part : Int} (positive : 0 < part) (small : part * part ≤ whole) :
    whole / (whole / part) = part := by
  have quotient : part ≤ whole / part := (Int.le_ediv_iff_mul_le positive).mpr small
  have division := Int.mul_ediv_add_emod whole part
  have remainder := Int.emod_lt_of_pos whole positive
  apply le_antisymm
  · apply Int.lt_add_one_iff.mp
    apply (Int.ediv_lt_iff_lt_mul (by omega)).mpr
    calc whole = part * (whole / part) + whole % part := division.symm
      _ < part * (whole / part) + whole / part := by omega
      _ = (part + 1) * (whole / part) := by ring
  · exact le_div_div positive (by omega)

theorem sum_eq_zero_iff_of_nonneg {values : List Int} (nonneg : ∀ value ∈ values, 0 ≤ value) :
    values.sum = 0 ↔ ∀ value ∈ values, value = 0 := by
  constructor
  · intro zero value member
    exact List.all_zero_of_le_zero_le_of_sum_eq_zero nonneg zero member
  · intro zeros
    exact List.sum_eq_zero zeros

theorem sum_floor_le (values : List ℚ) : (((values.map Int.floor).sum : Int) : ℚ) ≤ values.sum := by
  induction values with
  | nil => simp
  | cons value rest ih =>
    have here := Int.floor_le value
    simp only [List.map_cons, List.sum_cons, Int.cast_add]
    linarith

theorem sum_le_sum_floor (values : List ℚ) :
    values.sum ≤ (((values.map Int.floor).sum : Int) : ℚ) + values.length := by
  induction values with
  | nil => simp
  | cons value rest ih =>
    have here := Int.lt_floor_add_one value
    simp only [List.map_cons, List.sum_cons, Int.cast_add, List.length_cons, Nat.cast_add, Nat.cast_one]
    linarith

theorem sum_lt_sum_floor {values : List ℚ} (nonempty : values ≠ []) :
    values.sum < (((values.map Int.floor).sum : Int) : ℚ) + values.length := by
  cases values with
  | nil => exact absurd rfl nonempty
  | cons value rest =>
    have here := Int.lt_floor_add_one value
    have later := sum_le_sum_floor rest
    simp only [List.map_cons, List.sum_cons, Int.cast_add, List.length_cons, Nat.cast_add, Nat.cast_one]
    linarith

end Arithmetic
