import Mathlib.Algebra.BigOperators.Group.List.Basic
import Mathlib.Algebra.Order.BigOperators.Group.List
import Mathlib.Data.List.FinRange
import Mathlib.Tactic.Ring

namespace Arithmetic

/-- The part of `whole` that the holder at `index` gets when `parts` holders share it as evenly
    as whole numbers allow, the earlier ones first. -/
def share (parts whole index : Nat) : Nat := whole / parts + if index < whole % parts then 1 else 0

theorem sum_leading_ones (count base extra : Nat) :
    ((List.range count).map fun index => base + if index < extra then 1 else 0).sum =
      count * base + min count extra := by
  induction count with
  | zero => simp
  | succ count ih =>
    rw [List.range_succ, List.map_append, List.sum_append, ih]
    have product : (count + 1) * base = count * base + base := by ring
    rw [product]
    by_cases early : count < extra
    · simp only [List.map_cons, List.map_nil, List.sum_cons, List.sum_nil, early, if_true]
      omega
    · simp only [List.map_cons, List.map_nil, List.sum_cons, List.sum_nil, early, if_false]
      omega

theorem sum_share (parts whole : Nat) (positive : 0 < parts) :
    ((List.range parts).map (share parts whole)).sum = whole := by
  have remainder : whole % parts < parts := Nat.mod_lt whole positive
  calc ((List.range parts).map (share parts whole)).sum
      = parts * (whole / parts) + min parts (whole % parts) := sum_leading_ones _ _ _
    _ = parts * (whole / parts) + whole % parts := by rw [Nat.min_eq_right (Nat.le_of_lt remainder)]
    _ = whole := Nat.div_add_mod whole parts

theorem share_le (parts whole index : Nat) : share parts whole index ≤ whole := by
  have division := Nat.div_add_mod whole parts
  have quotient : whole / parts ≤ parts * (whole / parts) := by
    rcases Nat.eq_zero_or_pos parts with rfl | positive
    · simp
    · exact Nat.le_mul_of_pos_left _ positive
  unfold share
  split <;> omega

theorem share_rounds (parts whole index : Nat) :
    share parts whole index = whole / parts ∨
      share parts whole index = whole / parts + 1 ∧ 0 < whole % parts := by
  unfold share
  split
  · right
    constructor
    · rfl
    · omega
  · exact .inl rfl

theorem share_antitone (parts whole : Nat) {early late : Nat} (order : early ≤ late) :
    share parts whole late ≤ share parts whole early := by
  unfold share
  split
  · rw [if_pos (by omega)]
  · omega

/-- One more unit goes to the first holder after the remainder, where it may wrap around. -/
theorem share_succ (parts whole index : Nat) (inside : index < parts) :
    share parts (whole + 1) index = share parts whole index + if index = whole % parts then 1 else 0 := by
  have positive : 0 < parts := by omega
  have remainder := Nat.mod_lt whole positive
  have division := Nat.div_add_mod whole parts
  unfold share
  by_cases last : whole % parts + 1 = parts
  · have next : (whole + 1) / parts = whole / parts + 1 ∧ (whole + 1) % parts = 0 := by
      rw [Nat.div_mod_unique positive]
      constructor
      · rw [Nat.mul_add]
        omega
      · exact positive
    rw [next.1, next.2, if_neg (Nat.not_lt_zero index)]
    split <;> split <;> omega
  · have next : (whole + 1) / parts = whole / parts ∧ (whole + 1) % parts = whole % parts + 1 := by
      rw [Nat.div_mod_unique positive]
      omega
    rw [next.1, next.2]
    split <;> split <;> split <;> omega

theorem le_sum_share_earlier (parts whole : Nat) (positive : 0 < parts) (place : Fin parts → Nat)
    (earlier : ∀ i, place i ≤ i) :
    whole ≤ ((List.finRange parts).map fun i => share parts whole (place i)).sum := by
  calc whole = ((List.range parts).map (share parts whole)).sum := (sum_share parts whole positive).symm
    _ = ((List.finRange parts).map fun i : Fin parts => share parts whole i).sum := by
      rw [← List.map_coe_finRange_eq_range, List.map_map]
      rfl
    _ ≤ ((List.finRange parts).map fun i => share parts whole (place i)).sum := by
      apply List.sum_le_sum
      intro i _
      exact share_antitone parts whole (earlier i)

theorem sum_share_lt (whole : Nat) (places : List Nat) (nonempty : places ≠ []) :
    (places.map (share places.length whole)).sum < whole + places.length := by
  have positive := List.length_pos_of_ne_nil nonempty
  have remainder := Nat.mod_lt whole positive
  have division := Nat.div_add_mod whole places.length
  by_cases exact : whole % places.length = 0
  · have parts : ∀ part ∈ places.map (share places.length whole), part ≤ whole / places.length := by
      intro part listed
      obtain ⟨index, _, rfl⟩ := List.mem_map.mp listed
      simp [share, exact]
    have bound := List.sum_le_card_nsmul _ _ parts
    rw [List.length_map, nsmul_eq_mul, Nat.cast_id] at bound
    omega
  · have parts : ∀ part ∈ places.map (share places.length whole), part ≤ whole / places.length + 1 := by
      intro part listed
      obtain ⟨index, _, rfl⟩ := List.mem_map.mp listed
      unfold share
      split <;> omega
    have bound := List.sum_le_card_nsmul _ _ parts
    rw [List.length_map, nsmul_eq_mul, Nat.cast_id, Nat.mul_add] at bound
    omega

theorem share_one (parts index : Nat) (several : 1 < parts) :
    share parts 1 index = if index = 0 then 1 else 0 := by
  simp [share, Nat.div_eq_of_lt several, Nat.mod_eq_of_lt several]

theorem sum_eq_length_iff (values : List Nat) (small : ∀ value ∈ values, value ≤ 1) :
    values.sum = values.length ↔ ∀ value ∈ values, value = 1 := by
  induction values with
  | nil => simp
  | cons value rest ih =>
    have first := small value (by simp)
    have later : ∀ other ∈ rest, other ≤ 1 := fun other member => small other (by simp [member])
    have bound := List.sum_le_card_nsmul rest 1 later
    rw [nsmul_eq_mul, Nat.cast_id, mul_one] at bound
    rw [List.sum_cons, List.length_cons, List.forall_mem_cons, ← ih later]
    omega

end Arithmetic
