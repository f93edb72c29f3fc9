import Demonstrator.Collections.LinkedMap

namespace Collections

variable {Key Value : Type} [DecidableEq Key]

/-- A history with one more entry; an entry with the key of the last one takes its place. -/
def record (history : List (Key × Value)) (key : Key) (value : Value) : List (Key × Value) :=
  if history.getLast?.map Prod.fst = some key then history.dropLast ++ [(key, value)] else history ++ [(key, value)]

def latest (puts : List (Key × Value)) : List (Key × Value) :=
  puts.foldl (fun history entry => record history entry.1 entry.2) []

def recent (limit : Nat) (history : List (Key × Value)) : List (Key × Value) :=
  history.drop (history.length - limit)

theorem latest_snoc (puts : List (Key × Value)) (entry : Key × Value) :
    latest (puts ++ [entry]) = record (latest puts) entry.1 entry.2 := by
  rw [latest, List.foldl_append]
  rfl

theorem record_concat_same (before : List (Key × Value)) (key : Key) (old value : Value) :
    record (before ++ [(key, old)]) key value = before ++ [(key, value)] := by
  simp [record]

theorem record_other {history : List (Key × Value)} {key : Key} (other : history.getLast?.map Prod.fst ≠ some key)
    (value : Value) : record history key value = history ++ [(key, value)] := if_neg other

theorem record_pairwise {r : Key → Key → Prop} {history : List (Key × Value)} {key : Key} (value : Value)
    (ordered : (history.map Prod.fst).Pairwise r) (above : ∀ before ∈ history.map Prod.fst, before ≠ key → r before key)
    (inOrder : key ∈ history.map Prod.fst → history.getLast?.map Prod.fst = some key) :
    ((record history key value).map Prod.fst).Pairwise r := by
  by_cases last : history.getLast?.map Prod.fst = some key
  · obtain ⟨entry, ends, rfl⟩ := Option.map_eq_some_iff.mp last
    obtain ⟨before, rfl⟩ := List.getLast?_eq_some_iff.mp ends
    rw [record_concat_same]
    simpa using ordered
  · rw [record_other last, List.map_append]
    apply List.pairwise_append.mpr ⟨ordered, List.pairwise_singleton _ _, ?_⟩
    intro before member after appended
    cases List.mem_singleton.mp appended
    apply above before member
    rintro rfl
    exact last (inOrder member)

theorem mem_record {history : List (Key × Value)} {key other : Key} {value : Value}
    (member : other ∈ (record history key value).map Prod.fst) : other ∈ history.map Prod.fst ∨ other = key := by
  rw [record] at member
  split at member <;> rw [List.map_append, List.mem_append, List.map_singleton, List.mem_singleton] at member
  · rw [List.map_dropLast] at member
    exact member.imp_left List.mem_of_mem_dropLast
  · exact member

omit [DecidableEq Key] in
theorem zip_filterMap {find : Key → Option Value} {keys : List Key} (found : ∀ key ∈ keys, (find key).isSome) :
    keys.zip (keys.filterMap find) = keys.filterMap fun key => (find key).map (Prod.mk key) := by
  induction keys with
  | nil => rfl
  | cons key later ih =>
    obtain ⟨value, here⟩ := Option.isSome_iff_exists.mp (found key List.mem_cons_self)
    rw [List.filterMap_cons_some here, List.zip_cons_cons, ih fun other member => found other (List.mem_cons_of_mem key member),
      List.filterMap_cons_some (by rw [here, Option.map_some])]

namespace LinkedMap

variable {m : LinkedMap Key Value} {key : Key} {removes : Nat → Bool} {limit : Nat} {history : List (Key × Value)}

theorem map_replace_of_not_mem {entries : List (Key × Value)} (absent : key ∉ entries.map Prod.fst) (value : Value) :
    entries.map (replace key value) = entries := by
  conv_rhs => rw [← List.map_id entries]
  apply List.map_congr_left
  intro entry member
  have different : entry.1 ≠ key := by
    rintro rfl
    exact absent (List.mem_map_of_mem member)
  exact if_neg different

/-- A map that holds the most recent entries of a history goes on to hold them, if the next key is new to the history
    or the last one of it. -/
theorem entries_putEvicting (positive : 0 < limit) (bound : ∀ size, removes size = true ↔ limit < size)
    (distinct : (history.map Prod.fst).Nodup) (value : Value)
    (inOrder : key ∈ history.map Prod.fst → history.getLast?.map Prod.fst = some key)
    (holds : m.entries = recent limit history) :
    (m.putEvicting removes key value).entries = recent limit (record history key value) := by
  by_cases last : history.getLast?.map Prod.fst = some key
  · obtain ⟨entry, ends, rfl⟩ := Option.map_eq_some_iff.mp last
    obtain ⟨before, rfl⟩ := List.getLast?_eq_some_iff.mp ends
    obtain ⟨key, old⟩ := entry
    have split : m.entries = recent limit (before ++ [(key, old)]) := holds
    have kept : ∀ value, recent limit (before ++ [(key, value)]) =
        before.drop (before.length + 1 - limit) ++ [(key, value)] := by
      intro value
      rw [recent, List.length_append, List.length_singleton, List.drop_append_of_le_length (by omega)]
    rw [kept] at split
    have present : key ∈ m.keys := by simp [keys, split]
    have absent : key ∉ (before.drop (before.length + 1 - limit)).map Prod.fst := by
      intro member
      rw [List.map_append] at distinct
      have there := List.mem_of_mem_drop (List.map_drop ▸ member)
      exact (List.disjoint_of_nodup_append distinct) there (by simp)
    rw [putEvicting_present value present, put, dif_pos present, record_concat_same, kept]
    change m.entries.map (replace key value) = _
    rw [split, List.map_append, map_replace_of_not_mem absent]
    simp [replace]
  · have absent : key ∉ m.keys := by
      intro member
      rw [keys, holds, recent, List.map_drop] at member
      exact last (inOrder (List.mem_of_mem_drop member))
    have appended : (m.put key value).entries = m.entries ++ [(key, value)] := by rw [put, dif_neg absent]
    have size : m.size = history.length - (history.length - limit) := by rw [LinkedMap.size, holds, recent, List.length_drop]
    rw [record_other last, recent, List.length_append, List.length_singleton]
    by_cases full : limit ≤ history.length
    · have removed : removes (m.put key value).size = true := by
        rw [bound, size_put_absent value absent]
        omega
      rw [putEvicting, if_neg absent, if_pos removed]
      change (m.put key value).entries.tail = _
      rw [appended, holds, recent, ← List.drop_append_of_le_length (by omega), List.tail_drop]
      congr 1
      omega
    · have kept : ¬ removes (m.put key value).size = true := by
        rw [bound, size_put_absent value absent]
        omega
      rw [putEvicting, if_neg absent, if_neg kept, appended, holds, recent]
      simp [show history.length - limit = 0 by omega, show history.length + 1 - limit = 0 by omega]

theorem mem_of_get {key : Key} {value : Value} (found : m.get key = some value) : (key, value) ∈ m.entries := by
  obtain ⟨before, after, entries, _⟩ := List.lookup_eq_some_iff.mp found
  rw [entries]
  exact List.mem_append_right before List.mem_cons_self

theorem get_of_mem {entry : Key × Value} (member : entry ∈ m.entries) : m.get entry.1 = some entry.2 := by
  obtain ⟨entries, distinct⟩ := m
  change entries.lookup entry.1 = some entry.2
  induction entries with
  | nil => cases member
  | cons first later ih =>
    rw [List.map_cons, List.nodup_cons] at distinct
    rcases List.mem_cons.mp member with rfl | after
    · exact List.lookup_cons_self
    · have different : entry.1 ≠ first.1 := by
        intro same
        exact distinct.1 (same ▸ List.mem_map_of_mem after)
      rw [List.lookup_cons, beq_false_of_ne different]
      exact ih distinct.2 after

theorem filterMap_keys (m : LinkedMap Key Value) :
    m.keys.filterMap (fun key => (m.get key).map (Prod.mk key)) = m.entries := by
  rw [keys, List.filterMap_map]
  conv_rhs => rw [← List.map_id m.entries, ← List.filterMap_eq_map]
  apply List.filterMap_congr
  intro entry member
  rw [Function.comp_apply, get_of_mem member]
  rfl

theorem mem_put {value : Value} {entry : Key × Value} (member : entry ∈ (m.put key value).entries) :
    entry = (key, value) ∨ (entry.1 ≠ key ∧ entry ∈ m.entries) := by
  rw [put] at member
  split at member
  · obtain ⟨old, listed, rfl⟩ := List.mem_map.mp member
    by_cases same : old.1 = key
    · exact .inl (if_pos same)
    · rw [replace, if_neg same]
      exact .inr ⟨same, listed⟩
  · rename_i absent
    rcases List.mem_append.mp member with before | appended
    · refine .inr ⟨?_, before⟩
      rintro rfl
      exact absent (List.mem_map_of_mem before)
    · exact .inl (List.mem_singleton.mp appended)

theorem lookup_putEvicting {puts : List (Key × Value)} (value : Value)
    (current : ∀ entry ∈ m.entries, puts.reverse.lookup entry.1 = some entry.2) :
    ∀ entry ∈ (m.putEvicting removes key value).entries,
      (puts ++ [(key, value)]).reverse.lookup entry.1 = some entry.2 := by
  intro entry member
  have put : entry ∈ (m.put key value).entries := by
    rw [putEvicting] at member
    split at member
    · exact member
    · split at member
      · exact List.mem_of_mem_tail member
      · exact member
  rw [List.reverse_append, List.reverse_singleton, List.singleton_append]
  rcases mem_put put with rfl | ⟨different, before⟩
  · exact List.lookup_cons_self
  · rw [List.lookup_cons, beq_false_of_ne different]
    exact current entry before

end LinkedMap

end Collections
