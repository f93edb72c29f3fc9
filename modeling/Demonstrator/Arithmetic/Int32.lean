import Mathlib.Data.List.Basic
import Mathlib.Algebra.BigOperators.Group.List.Basic
import Mathlib.Algebra.Ring.Int.Defs

namespace Arithmetic

theorem toInt_nonneg {value : Int32} : 0 ≤ value ↔ 0 ≤ value.toInt := by
  rw [Int32.le_iff_toInt_le, Int32.toInt_zero]

theorem outside_of_not_within {value top : Int32} (outside : ¬ (0 ≤ value ∧ value ≤ top)) :
    value < 0 ∨ top < value := by
  by_cases low : 0 ≤ value
  · exact .inr (Int32.not_le.mp fun high => outside ⟨low, high⟩)
  · exact .inl (Int32.not_le.mp low)

theorem toInt_add_of_range {left right : Int32} (low : -2 ^ 31 ≤ left.toInt + right.toInt)
    (high : left.toInt + right.toInt < 2 ^ 31) : (left + right).toInt = left.toInt + right.toInt := by
  rw [Int32.toInt_add]
  exact Int.bmod_eq_of_le (by omega) (by omega)

theorem toInt_sub_of_range {left right : Int32} (low : -2 ^ 31 ≤ left.toInt - right.toInt)
    (high : left.toInt - right.toInt < 2 ^ 31) : (left - right).toInt = left.toInt - right.toInt := by
  rw [Int32.toInt_sub]
  exact Int.bmod_eq_of_le (by omega) (by omega)

theorem toInt_mul_of_range {left right : Int32} (low : -2 ^ 31 ≤ left.toInt * right.toInt)
    (high : left.toInt * right.toInt < 2 ^ 31) : (left * right).toInt = left.toInt * right.toInt := by
  rw [Int32.toInt_mul]
  exact Int.bmod_eq_of_le (by omega) (by omega)

theorem toInt_mul_literal {value factor : Int32} {bound scale : Int} (literal : factor.toInt = scale)
    (low : -bound ≤ value.toInt) (high : value.toInt ≤ bound) (positive : 0 ≤ scale) (fits : bound * scale < 2 ^ 31) :
    (value * factor).toInt = value.toInt * scale := by
  have least := Int.mul_le_mul_of_nonneg_right low positive
  have most := Int.mul_le_mul_of_nonneg_right high positive
  rw [Int.neg_mul] at least
  rw [toInt_mul_of_range, literal]
  all_goals
    rw [literal]
    omega

theorem toInt_min (left right : Int32) : (min left right).toInt = min left.toInt right.toInt := by
  have unfolded : min left right = if left ≤ right then left else right := rfl
  rw [unfolded]
  by_cases order : left ≤ right
  · rw [if_pos order, Int.min_eq_left (Int32.le_iff_toInt_le.mp order)]
  · have reverse : right.toInt ≤ left.toInt := by
      rw [Int32.le_iff_toInt_le] at order
      omega
    rw [if_neg order, Int.min_eq_right reverse]

theorem min_eq_left_iff_le (left right : Int32) : min left right = left ↔ left ≤ right := by
  rw [← Int32.toInt_inj, toInt_min, Int32.le_iff_toInt_le]
  omega

theorem toInt_max (left right : Int32) : (max left right).toInt = max left.toInt right.toInt := by
  have unfolded : max left right = if left ≤ right then right else left := rfl
  rw [unfolded]
  by_cases order : left ≤ right
  · rw [if_pos order, Int.max_eq_right (Int32.le_iff_toInt_le.mp order)]
  · have reverse : right.toInt ≤ left.toInt := by
      rw [Int32.le_iff_toInt_le] at order
      omega
    rw [if_neg order, Int.max_eq_left reverse]

def divide (dividend divisor : Int32) : Option Int32 := if divisor = 0 then none else some (dividend / divisor)

theorem divide_of_ne {dividend divisor : Int32} (nonzero : divisor ≠ 0) (inside : dividend ≠ Int32.minValue) :
    ∃ quotient, divide dividend divisor = some quotient ∧ quotient.toInt = dividend.toInt.tdiv divisor.toInt :=
  ⟨dividend / divisor, if_neg nonzero, Int32.toInt_div_of_ne_left dividend divisor inside⟩

def total (values : List Int32) : Int32 := values.foldl (· + ·) 0

theorem toNat_toUInt64_of_toInt {value : Int32} {count : Nat} (counted : value.toInt = count) :
    value.toInt64.toUInt64.toNat = count := by
  have wide : value.toInt64.toInt = value.toInt := Int32.toInt_toInt64 _
  have nonnegative : 0 ≤ value.toInt64 := by
    rw [Int64.le_iff_toInt_le, Int64.toInt_zero]
    omega
  rw [Int64.toNat_toUInt64_of_le nonnegative, Int64.toNatClampNeg]
  omega

theorem toInt_toInt32_of_lt {value : UInt32} (small : value.toNat < 2 ^ 31) : value.toInt32.toInt = value.toNat := by
  have bits : value.toInt32.toInt = value.toBitVec.toInt := rfl
  rw [bits, BitVec.toInt_eq_toNat_of_lt]
  · rfl
  · change 2 * value.toNat < 2 ^ 32
    omega

theorem toNat_toUInt32_of_toInt {value : Int32} {count : Nat} (counted : value.toInt = count) :
    value.toUInt32.toNat = count := by
  have bits : value.toUInt32.toNat = value.toBitVec.toNat := rfl
  have number : value.toBitVec.toInt = count := counted
  have range := value.toBitVec.isLt
  rw [BitVec.toInt_eq_toNat_cond] at number
  rw [bits]
  split at number <;> omega

theorem foldl_add (start : Int32) (values : List Int32) :
    values.foldl (· + ·) start = start + total values := by
  induction values generalizing start with
  | nil => exact (Int32.add_zero start).symm
  | cons value rest ih =>
    have first : total (value :: rest) = rest.foldl (· + ·) (0 + value) := rfl
    rw [List.foldl_cons, ih, first, ih, Int32.zero_add, Int32.add_assoc]

@[simp] theorem total_nil : total [] = 0 := rfl

@[simp] theorem total_cons (value : Int32) (rest : List Int32) :
    total (value :: rest) = value + total rest := by
  have first : total (value :: rest) = rest.foldl (· + ·) (0 + value) := rfl
  rw [first, foldl_add, Int32.zero_add]

theorem toInt_total (values : List Int32) :
    (total values).toInt = ((values.map Int32.toInt).sum).bmod (2 ^ 32) := by
  induction values with
  | nil => rfl
  | cons value rest ih =>
    rw [total_cons, Int32.toInt_add, ih, List.map_cons, List.sum_cons]
    simp

theorem toInt_total_of_range (values : List Int32) (low : -2 ^ 31 ≤ (values.map Int32.toInt).sum)
    (high : (values.map Int32.toInt).sum < 2 ^ 31) :
    (total values).toInt = (values.map Int32.toInt).sum := by
  rw [toInt_total]
  exact Int.bmod_eq_of_le (by omega) (by omega)

theorem total_replaced {Key : Type} (keys : List Key) (kept : Key → Prop) [DecidablePred kept]
    (old new : Key → Int32) :
    total (keys.map fun key => if kept key then old key else new key) = total (keys.map new) ↔
      total ((keys.filter (fun key => kept key)).map old) =
        total ((keys.filter (fun key => kept key)).map new) := by
  have balance : total (keys.map fun key => if kept key then old key else new key) +
      total ((keys.filter (fun key => kept key)).map new) =
      total (keys.map new) + total ((keys.filter (fun key => kept key)).map old) := by
    induction keys with
    | nil => rfl
    | cons key rest ih =>
      by_cases holds : kept key
      · simp only [List.map_cons, List.filter_cons, holds, decide_true, if_true, total_cons]
        grind
      · simp only [List.map_cons, List.filter_cons, holds, decide_false, if_false, total_cons,
          Bool.false_eq_true]
        grind
  constructor
  · intro same
    rw [same] at balance
    exact ((Int32.add_right_inj _).mp balance).symm
  · intro same
    rw [same] at balance
    exact (Int32.add_left_inj _).mp balance

end Arithmetic
