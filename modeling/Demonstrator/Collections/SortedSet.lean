import Mathlib.Data.List.Basic
import Mathlib.Data.List.Induction
import Mathlib.Data.List.Perm.Basic

namespace Collections.SortedSet

variable {Item Key : Type}

/-- An ordered set that takes two items for the same when they compare equal: the one that is there stays. -/
def add (compare : Item → Item → Ordering) (item : Item) : List Item → List Item
  | [] => [item]
  | other :: later =>
    match compare item other with
    | .lt => item :: other :: later
    | .eq => other :: later
    | .gt => other :: add compare item later

def addAll (compare : Item → Item → Ordering) (items : List Item) : List Item :=
  items.foldl (fun set item => add compare item set) []

theorem mem_of_mem_add {compare : Item → Item → Ordering} {item found : Item} {set : List Item}
    (member : found ∈ add compare item set) : found = item ∨ found ∈ set := by
  induction set with
  | nil => exact .inl (List.mem_singleton.mp member)
  | cons other later ih =>
    unfold add at member
    split at member
    · exact List.mem_cons.mp member
    · exact .inr member
    · rcases List.mem_cons.mp member with rfl | behind
      · exact .inr List.mem_cons_self
      · exact (ih behind).imp_right (List.mem_cons_of_mem other)

theorem addAll_snoc (compare : Item → Item → Ordering) (items : List Item) (item : Item) :
    addAll compare (items ++ [item]) = add compare item (addAll compare items) := by
  rw [addAll, List.foldl_append]
  rfl

theorem mem_of_mem_addAll {compare : Item → Item → Ordering} {found : Item} {items : List Item}
    (member : found ∈ addAll compare items) : found ∈ items := by
  induction items using List.reverseRecOn with
  | nil => exact member
  | append_singleton items item ih =>
    rw [addAll_snoc] at member
    rw [List.mem_append, List.mem_singleton]
    exact (mem_of_mem_add member).symm.imp_left ih

def Ordered (cmp : Key → Key → Ordering) (key : Item → Key) (set : List Item) : Prop :=
  set.Pairwise fun a b => cmp (key a) (key b) = .lt

def ComparedBy (compare : Item → Item → Ordering) (cmp : Key → Key → Ordering) (key : Item → Key)
    (items : List Item) : Prop :=
  ∀ a ∈ items, ∀ b ∈ items, compare a b = cmp (key a) (key b)

section Keyed

variable {compare : Item → Item → Ordering} {cmp : Key → Key → Ordering} {key : Item → Key}

theorem ordered_add [Std.TransCmp cmp] {item : Item} {set : List Item}
    (compared : ∀ other ∈ set, compare item other = cmp (key item) (key other)) (ordered : Ordered cmp key set) :
    Ordered cmp key (add compare item set) := by
  induction set with
  | nil => exact List.pairwise_singleton _ _
  | cons other later ih =>
    obtain ⟨here, behind⟩ := List.pairwise_cons.mp ordered
    rw [List.forall_mem_cons] at compared
    unfold add
    cases order : compare item other with
    | lt =>
      have less : cmp (key item) (key other) = .lt := compared.1.symm.trans order
      refine List.pairwise_cons.mpr ⟨fun found member => ?_, ordered⟩
      rcases List.mem_cons.mp member with rfl | after
      · exact less
      · exact Std.TransCmp.lt_trans less (here found after)
    | eq => exact ordered
    | gt =>
      have less : cmp (key other) (key item) = .lt := Std.OrientedCmp.gt_iff_lt.mp (compared.1.symm.trans order)
      refine List.pairwise_cons.mpr ⟨fun found member => ?_, ih compared.2 behind⟩
      rcases mem_of_mem_add member with rfl | after
      · exact less
      · exact here found after

theorem add_perm [Std.LawfulEqCmp cmp] {item : Item} {set : List Item}
    (compared : ∀ other ∈ set, compare item other = cmp (key item) (key other))
    (fresh : ∀ other ∈ set, key item ≠ key other) : (add compare item set).Perm (item :: set) := by
  induction set with
  | nil => exact List.Perm.refl _
  | cons other later ih =>
    rw [List.forall_mem_cons] at compared fresh
    unfold add
    cases order : compare item other with
    | lt => exact List.Perm.refl _
    | eq =>
      have same := Std.LawfulEqCmp.compare_eq_iff_eq.mp (compared.1.symm.trans order)
      exact absurd same fresh.1
    | gt => exact ((ih compared.2 fresh.2).cons other).trans (List.Perm.swap item other later)

theorem ordered_addAll [Std.TransCmp cmp] {items : List Item} (compared : ComparedBy compare cmp key items) :
    Ordered cmp key (addAll compare items) := by
  induction items using List.reverseRecOn with
  | nil => exact List.Pairwise.nil
  | append_singleton items item ih =>
    rw [addAll_snoc]
    apply ordered_add
    · intro other member
      exact compared item (by simp) other (List.mem_append_left _ (mem_of_mem_addAll member))
    · exact ih fun a left b right => compared a (List.mem_append_left _ left) b (List.mem_append_left _ right)

theorem addAll_perm [Std.LawfulEqCmp cmp] {items : List Item} (compared : ComparedBy compare cmp key items)
    (distinct : (items.map key).Nodup) : (addAll compare items).Perm items := by
  induction items using List.reverseRecOn with
  | nil => exact List.Perm.refl _
  | append_singleton items item ih =>
    rw [List.map_append, List.nodup_append] at distinct
    have before := ih (fun a left b right => compared a (List.mem_append_left _ left) b (List.mem_append_left _ right))
      distinct.1
    rw [addAll_snoc]
    have here : ∀ other ∈ addAll compare items, compare item other = cmp (key item) (key other) := by
      intro other member
      exact compared item (by simp) other (List.mem_append_left _ (mem_of_mem_addAll member))
    have fresh : ∀ other ∈ addAll compare items, key item ≠ key other := by
      intro other member same
      exact distinct.2.2 _ (List.mem_map_of_mem (mem_of_mem_addAll member)) _ (List.mem_singleton_self _) same.symm
    exact ((add_perm here fresh).trans (before.cons item)).trans (List.perm_append_singleton item items).symm

theorem Ordered.nodup [Std.ReflCmp cmp] {set : List Item} (ordered : Ordered cmp key set) : (set.map key).Nodup := by
  rw [List.Nodup, List.pairwise_map]
  apply List.Pairwise.imp _ ordered
  intro a b less same
  have equal : cmp (key b) (key b) = .eq := Std.ReflCmp.compare_self
  rw [same, equal] at less
  cases less

theorem addAll_perm_iff [Std.TransCmp cmp] [Std.LawfulEqCmp cmp] {items : List Item}
    (compared : ComparedBy compare cmp key items) :
    (addAll compare items).Perm items ↔ (items.map key).Nodup := by
  constructor
  · intro all
    rw [← (all.map key).nodup_iff]
    exact (ordered_addAll compared).nodup
  · exact addAll_perm compared

theorem key_mem_add [Std.LawfulEqCmp cmp] {item found : Item} {set : List Item}
    (compared : ∀ other ∈ set, compare item other = cmp (key item) (key other)) (member : found = item ∨ found ∈ set) :
    ∃ kept ∈ add compare item set, key kept = key found := by
  induction set with
  | nil =>
    rcases member with rfl | absent
    · exact ⟨found, List.mem_cons_self, rfl⟩
    · cases absent
  | cons other later ih =>
    rw [List.forall_mem_cons] at compared
    unfold add
    cases order : compare item other with
    | lt => exact ⟨found, List.mem_cons.mpr member, rfl⟩
    | eq =>
      have same := Std.LawfulEqCmp.compare_eq_iff_eq.mp (compared.1.symm.trans order)
      rcases member with rfl | there
      · exact ⟨other, List.mem_cons_self, same.symm⟩
      · exact ⟨found, there, rfl⟩
    | gt =>
      by_cases here : found = other
      · exact ⟨other, List.mem_cons_self, congrArg key here.symm⟩
      · have behind : found = item ∨ found ∈ later :=
          member.imp_right fun there => (List.mem_cons.mp there).resolve_left here
        obtain ⟨kept, stays, same⟩ := ih compared.2 behind
        exact ⟨kept, List.mem_cons_of_mem other stays, same⟩

theorem key_mem_addAll [Std.LawfulEqCmp cmp] {items : List Item} {found : Item}
    (compared : ComparedBy compare cmp key items) (member : found ∈ items) :
    ∃ kept ∈ addAll compare items, key kept = key found := by
  induction items using List.reverseRecOn generalizing found with
  | nil => cases member
  | append_singleton items item ih =>
    have before : ComparedBy compare cmp key items :=
      fun a left b right => compared a (List.mem_append_left _ left) b (List.mem_append_left _ right)
    have last : ∀ other ∈ addAll compare items, compare item other = cmp (key item) (key other) := by
      intro other there
      exact compared item (by simp) other (List.mem_append_left _ (mem_of_mem_addAll there))
    rw [addAll_snoc]
    rcases List.mem_append.mp member with earlier | here
    · obtain ⟨kept, there, same⟩ := ih before earlier
      obtain ⟨stays, member, equal⟩ := key_mem_add last (.inr there)
      exact ⟨stays, member, equal.trans same⟩
    · cases List.mem_singleton.mp here
      exact key_mem_add last (.inl rfl)

theorem ordered_mergeSort [Std.TransCmp cmp] [Std.LawfulEqCmp cmp] {items : List Item}
    (distinct : (items.map key).Nodup) : Ordered cmp key (items.mergeSort fun a b => cmp (key a) (key b) != .gt) := by
  have sorted : (items.mergeSort fun a b => cmp (key a) (key b) != .gt).Pairwise
      fun a b => (cmp (key a) (key b) != .gt) = true := by
    apply List.pairwise_mergeSort
    · intro a b c first second
      rw [bne_iff_ne, ne_eq, Ordering.ne_gt_iff_isLE] at first second ⊢
      exact Std.TransCmp.isLE_trans first second
    · intro a b
      cases order : cmp (key a) (key b) with
      | lt => rfl
      | eq => rfl
      | gt => simp [Std.OrientedCmp.gt_iff_lt.mp order]
  have apart : ((items.mergeSort fun a b => cmp (key a) (key b) != .gt).map key).Nodup :=
    ((List.mergeSort_perm _ _).map key).nodup_iff.mpr distinct
  apply (sorted.and (List.pairwise_map.mp apart)).imp
  rintro a b ⟨le, different⟩
  cases order : cmp (key a) (key b) with
  | lt => rfl
  | eq => exact absurd (Std.LawfulEqCmp.compare_eq_iff_eq.mp order) different
  | gt => simp [order] at le

theorem Ordered.eq_of_perm [Std.TransCmp cmp] {set other : List Item} (ordered : Ordered cmp key set)
    (ordered' : Ordered cmp key other) (same : set.Perm other) : set = other := by
  apply List.Perm.eq_of_pairwise _ ordered ordered' same
  intro a b _ _ less more
  rw [Std.OrientedCmp.gt_iff_lt.mpr more] at less
  cases less

end Keyed

end Collections.SortedSet
