import Demonstrator.Java.Coordinator.Scaling
import Mathlib.Data.Rat.Floor

namespace Coordinator

open Arithmetic

section

variable (names : ControllerNames) {replicaSum : Int32}
  (nonnegative : 0 ≤ replicaSum)

include nonnegative

theorem getNewReplicaCount_toInt (name : String) (member : name ∈ names.names) :
    (getNewReplicaCount names.names name replicaSum).toInt =
      share names.names.length replicaSum.toNatClampNeg (names.names.idxOf name) := by
  rw [getNewReplicaCount_share names.names names.length_lt replicaSum nonnegative name member,
    controllerShare_toInt]

theorem sum_getNewReplicaCount (distinct : names.names.Nodup) :
    (names.names.map fun name => (getNewReplicaCount names.names name replicaSum).toInt).sum =
      replicaSum.toInt := by
  have shares : names.names.map (fun name => (getNewReplicaCount names.names name replicaSum).toInt) =
      (names.names.map (controllerShare names.names replicaSum)).map Int32.toInt := by
    rw [List.map_map]
    apply List.map_congr_left
    intro name member
    rw [getNewReplicaCount_share names.names names.length_lt replicaSum nonnegative name member]
    rfl
  rw [shares]
  exact sum_controllerShare names.names names.nonempty distinct replicaSum nonnegative

theorem getNewReplicaCount_at (distinct : names.names.Nodup) (i : Fin names.names.length) :
    (getNewReplicaCount names.names (names.names.get i) replicaSum).toInt =
      share names.names.length replicaSum.toNatClampNeg i := by
  rw [getNewReplicaCount_toInt names nonnegative _ (List.get_mem _ i), List.get_eq_getElem,
    distinct.idxOf_getElem i i.isLt]

theorem getNewReplicaCount_rounds (name : String) (member : name ∈ names.names) :
    (getNewReplicaCount names.names name replicaSum).toInt =
        ⌊(replicaSum.toInt : ℚ) / names.names.length⌋ ∨
      (getNewReplicaCount names.names name replicaSum).toInt =
        ⌈(replicaSum.toInt : ℚ) / names.names.length⌉ := by
  have low := toInt_nonneg.mp nonnegative
  have whole : replicaSum.toInt = (replicaSum.toNatClampNeg : Int) := (Int.toNat_of_nonneg low).symm
  have positive : 0 < names.names.length := List.length_pos_of_ne_nil names.nonempty
  rw [getNewReplicaCount_toInt names nonnegative name member, Rat.floor_intCast_div_natCast,
    Rat.ceil_intCast_div_natCast, whole]
  generalize replicaSum.toNatClampNeg = whole
  generalize names.names.length = parts at positive ⊢
  rcases share_rounds parts whole (names.names.idxOf name) with down | ⟨up, rest⟩
  · left
    rw [down]
    rfl
  · right
    have remainder := Nat.mod_lt whole positive
    have exact : (parts : Int) * (whole / parts : Nat) + (whole % parts : Nat) = whole := by
      exact_mod_cast Nat.div_add_mod whole parts
    have above : -(whole : Int) / parts = -(whole / parts + 1 : Nat) ∧
        -(whole : Int) % parts = parts - (whole % parts : Nat) := by
      rw [Int.ediv_emod_unique (by omega)]
      refine ⟨?_, by omega, by omega⟩
      rw [Nat.cast_add, Nat.cast_one, mul_neg, mul_add, mul_one]
      omega
    rw [up, above.1, neg_neg]

theorem getNewReplicaCount_antitone (distinct : names.names.Nodup) (i j : Fin names.names.length)
    (order : i ≤ j) :
    getNewReplicaCount names.names (names.names.get j) replicaSum ≤
      getNewReplicaCount names.names (names.names.get i) replicaSum := by
  rw [Int32.le_iff_toInt_le, getNewReplicaCount_at names nonnegative distinct,
    getNewReplicaCount_at names nonnegative distinct]
  exact_mod_cast share_antitone _ _ order

theorem getNewReplicaCount_next (distinct : names.names.Nodup) (next : Int32)
    (succ : next.toInt = replicaSum.toInt + 1) :
    ∃ changed : Fin names.names.length, ∀ i : Fin names.names.length,
      (getNewReplicaCount names.names (names.names.get i) next).toInt =
        (getNewReplicaCount names.names (names.names.get i) replicaSum).toInt +
          if i = changed then 1 else 0 := by
  have positive : 0 < names.names.length := List.length_pos_of_ne_nil names.nonempty
  have low := toInt_nonneg.mp nonnegative
  have nextNonnegative : 0 ≤ next := toInt_nonneg.mpr (by omega)
  have whole : next.toNatClampNeg = replicaSum.toNatClampNeg + 1 := by
    unfold Int32.toNatClampNeg
    omega
  refine ⟨⟨replicaSum.toNatClampNeg % names.names.length, Nat.mod_lt _ positive⟩, ?_⟩
  intro i
  rw [getNewReplicaCount_at names nextNonnegative distinct, getNewReplicaCount_at names nonnegative distinct,
    whole, share_succ _ _ _ i.isLt]
  by_cases same : (i : Nat) = replicaSum.toNatClampNeg % names.names.length
  · simp [Fin.ext_iff, same]
  · simp [Fin.ext_iff, same]

end

/-- Among distinct names the replicas are divided exactly and evenly, the earlier names first, and
    one replica more goes to one controller. -/
theorem replicas_divided (names : ControllerNames) (distinct : names.names.Nodup) (replicaSum : Int32)
    (nonnegative : 0 ≤ replicaSum) :
    (names.names.map fun name => (getNewReplicaCount names.names name replicaSum).toInt).sum =
        replicaSum.toInt ∧
      (∀ i : Fin names.names.length,
        (getNewReplicaCount names.names (names.names.get i) replicaSum).toInt =
            ⌊(replicaSum.toInt : ℚ) / names.names.length⌋ ∨
          (getNewReplicaCount names.names (names.names.get i) replicaSum).toInt =
            ⌈(replicaSum.toInt : ℚ) / names.names.length⌉) ∧
      (∀ i j : Fin names.names.length, i ≤ j →
        getNewReplicaCount names.names (names.names.get j) replicaSum ≤
          getNewReplicaCount names.names (names.names.get i) replicaSum) ∧
      ∀ next : Int32, next.toInt = replicaSum.toInt + 1 →
        ∃ changed : Fin names.names.length, ∀ i : Fin names.names.length,
          (getNewReplicaCount names.names (names.names.get i) next).toInt =
            (getNewReplicaCount names.names (names.names.get i) replicaSum).toInt +
              if i = changed then 1 else 0 := by
  refine ⟨sum_getNewReplicaCount names nonnegative distinct, ?_,
    getNewReplicaCount_antitone names nonnegative distinct, getNewReplicaCount_next names nonnegative distinct⟩
  intro i
  exact getNewReplicaCount_rounds names nonnegative _ (List.get_mem _ i)

theorem replicas_divided_seven :
    (["a", "b", "c"].map fun name => (getNewReplicaCount ["a", "b", "c"] name 7).toInt).sum = 7 :=
  (replicas_divided ⟨["a", "b", "c"], by simp, by simp⟩ (by decide) 7 (by decide)).1

end Coordinator
