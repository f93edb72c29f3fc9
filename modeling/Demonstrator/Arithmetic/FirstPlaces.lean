import Demonstrator.Arithmetic.Shares
import Mathlib.Algebra.BigOperators.Group.Finset.Basic
import Mathlib.Algebra.Order.BigOperators.Group.Finset

namespace Arithmetic

variable {Name : Type} [DecidableEq Name] (names : List Name)

def firstPlaces : Finset Nat := names.toFinset.image names.idxOf

theorem firstPlaces_subset : firstPlaces names ⊆ Finset.range names.length := by
  intro place member
  obtain ⟨name, listed, rfl⟩ := Finset.mem_image.mp member
  exact Finset.mem_range.mpr (List.idxOf_lt_length_of_mem (List.mem_toFinset.mp listed))

theorem mem_firstPlaces (place : Fin names.length) :
    (place : Nat) ∈ firstPlaces names ↔ names.idxOf (names.get place) = place := by
  constructor
  · intro member
    obtain ⟨name, listed, first⟩ := Finset.mem_image.mp member
    have inside := List.idxOf_lt_length_of_mem (List.mem_toFinset.mp listed)
    have found : names.get place = name := by
      have same : place = ⟨names.idxOf name, inside⟩ := Fin.ext first.symm
      rw [same]
      exact List.idxOf_get inside
    rw [found, first]
  · intro first
    exact Finset.mem_image.mpr ⟨names.get place, List.mem_toFinset.mpr (List.get_mem _ _), first⟩

theorem sum_firstPlaces (amount : Nat → Nat) :
    ∑ name ∈ names.toFinset, amount (names.idxOf name) = ∑ place ∈ firstPlaces names, amount place := by
  rw [firstPlaces, Finset.sum_image]
  intro name listed other _ same
  exact (List.idxOf_inj (List.mem_toFinset.mp listed)).mp same

theorem share_eq_zero_iff (parts whole index : Nat) (inside : index < parts) :
    share parts whole index = 0 ↔ whole ≤ index := by
  have division := Nat.div_add_mod whole parts
  unfold share
  by_cases small : whole < parts
  · rw [Nat.div_eq_of_lt small, Nat.mod_eq_of_lt small]
    split <;> omega
  · have quotient : 0 < whole / parts := Nat.div_pos (by omega) (by omega)
    constructor
    · intro none
      omega
    · intro late
      omega

theorem nodup_take_iff (count : Nat) :
    (names.take count).Nodup ↔
      ∀ place : Fin names.length, (place : Nat) < count → names.idxOf (names.get place) = place := by
  constructor
  · intro distinct place early
    have inside : (place : Nat) < (names.take count).length := by
      rw [List.length_take]
      exact Nat.lt_min.mpr ⟨early, place.isLt⟩
    have kept : (names.take count)[(place : Nat)] = names.get place := List.getElem_take
    have member : names.get place ∈ names.take count := kept ▸ List.getElem_mem inside
    rw [← (List.take_prefix count names).idxOf_eq_of_mem member, ← kept]
    exact distinct.idxOf_getElem place inside
  · intro first
    rw [List.nodup_iff_injective_get]
    intro i j same
    have kept : ∀ i : Fin (names.take count).length, (i : Nat) < count ∧ (i : Nat) < names.length :=
      fun i => Nat.lt_min.mp (Nat.lt_of_lt_of_eq i.isLt List.length_take)
    have left := first ⟨i, (kept i).2⟩ (kept i).1
    have right := first ⟨j, (kept j).2⟩ (kept j).1
    simp only [List.get_eq_getElem, List.getElem_take] at same left right
    apply Fin.ext
    rw [← left, ← right, same]

/-- Counted once each, repeated names share the whole just if no name is repeated among the places
    that get anything. -/
theorem sum_share_once_iff (nonempty : names ≠ []) (whole : Nat) :
    ∑ name ∈ names.toFinset, share names.length whole (names.idxOf name) = whole ↔
      (names.take whole).Nodup := by
  have all : ∑ place ∈ Finset.range names.length, share names.length whole place = whole := by
    exact sum_share names.length whole (List.length_pos_of_ne_nil nonempty)
  have parts := Finset.sum_sdiff (f := share names.length whole) (firstPlaces_subset names)
  rw [all] at parts
  rw [sum_firstPlaces, nodup_take_iff]
  have rest : ∑ place ∈ firstPlaces names, share names.length whole place = whole ↔
      ∑ place ∈ Finset.range names.length \ firstPlaces names, share names.length whole place = 0 := by
    omega
  rw [rest, Finset.sum_eq_zero_iff]
  constructor
  · intro later place early
    by_contra repeated
    rw [← mem_firstPlaces] at repeated
    have none := later place (Finset.mem_sdiff.mpr ⟨Finset.mem_range.mpr place.isLt, repeated⟩)
    rw [share_eq_zero_iff _ _ _ place.isLt] at none
    omega
  · intro first place member
    obtain ⟨inside, repeated⟩ := Finset.mem_sdiff.mp member
    have bound := Finset.mem_range.mp inside
    rw [share_eq_zero_iff _ _ _ bound]
    by_contra early
    exact repeated ((mem_firstPlaces names ⟨place, bound⟩).mpr (first ⟨place, bound⟩ (not_le.mp early)))

end Arithmetic
