import Mathlib.Data.List.Nodup

namespace Collections

variable {Item : Type}

def takeFirst (isMatch : Item → Bool) : List Item → Option (Item × List Item)
  | [] => none
  | item :: rest =>
    if isMatch item then some (item, rest)
    else (takeFirst isMatch rest).map fun (found, left) => (found, item :: left)

theorem takeFirst_none {isMatch : Item → Bool} {items : List Item} (h : takeFirst isMatch items = none) :
    items.filter isMatch = [] := by
  induction items with
  | nil => rfl
  | cons item rest ih =>
    simp only [takeFirst] at h
    split at h
    · cases h
    · rename_i other
      rw [List.filter_cons_of_neg other]
      exact ih (Option.map_eq_none_iff.mp h)

structure TakenFirst (isMatch : Item → Bool) (items : List Item) (found : Item) (left : List Item) : Prop where
  selected : isMatch found = true
  others : items.filter isMatch = found :: left.filter isMatch
  apart : ∀ isOther : Item → Bool, isOther found = false → left.filter isOther = items.filter isOther
  sublist : left.Sublist items

theorem takeFirst_some {isMatch : Item → Bool} {items left : List Item} {found : Item}
    (h : takeFirst isMatch items = some (found, left)) : TakenFirst isMatch items found left := by
  induction items generalizing left with
  | nil => cases h
  | cons item rest ih =>
    simp only [takeFirst] at h
    split at h
    · rename_i here
      cases h
      refine ⟨here, List.filter_cons_of_pos here, fun isOther apart => ?_, List.sublist_cons_self _ _⟩
      rw [List.filter_cons_of_neg (by simp [apart])]
    · rename_i other
      obtain ⟨⟨later, remaining⟩, taken, same⟩ := Option.map_eq_some_iff.mp h
      cases same
      obtain ⟨isFound, others, apart, sublist⟩ := ih taken
      refine ⟨isFound, ?_, fun isOther away => ?_, sublist.cons_cons item⟩
      · rw [List.filter_cons_of_neg other, List.filter_cons_of_neg other]
        exact others
      · rw [List.filter_cons, List.filter_cons, apart isOther away]

theorem filter_not_mem_drop [DecidableEq Item] {items : List Item} (nodup : items.Nodup) (count : Nat) :
    items.filter (fun item => item ∉ items.drop count) = items.take count := by
  have apart := List.disjoint_take_drop nodup (Nat.le_refl count)
  have first : (items.take count).filter (fun item => item ∉ items.drop count) = items.take count := by
    apply List.filter_eq_self.mpr
    intro item member
    exact decide_eq_true (apart member)
  have second : (items.drop count).filter (fun item => item ∉ items.drop count) = [] := by
    apply List.filter_eq_nil_iff.mpr
    intro item member kept
    exact of_decide_eq_true kept member
  calc items.filter (fun item => item ∉ items.drop count)
      = (items.take count ++ items.drop count).filter (fun item => item ∉ items.drop count) := by
        rw [List.take_append_drop]
    _ = items.take count := by rw [List.filter_append, first, second, List.append_nil]

end Collections
