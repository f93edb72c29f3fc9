import Mathlib.Data.Finset.Card
import Mathlib.Data.List.Basic
import Mathlib.Data.List.Nodup

namespace Collections

structure LinkedMap (Key Value : Type) where
  entries : List (Key × Value)
  distinct : (entries.map Prod.fst).Nodup

namespace LinkedMap

variable {Key Value : Type}

def empty : LinkedMap Key Value := ⟨[], List.nodup_nil⟩

def keys (m : LinkedMap Key Value) : List Key := m.entries.map Prod.fst

def size (m : LinkedMap Key Value) : Nat := m.entries.length

def removeEldest (m : LinkedMap Key Value) : LinkedMap Key Value where
  entries := m.entries.tail
  distinct := by
    rw [List.map_tail]
    exact m.distinct.tail

theorem keys_nodup (m : LinkedMap Key Value) : m.keys.Nodup := m.distinct

@[simp] theorem keys_length (m : LinkedMap Key Value) : m.keys.length = m.size := List.length_map _

variable [DecidableEq Key]

def get (m : LinkedMap Key Value) (key : Key) : Option Value := m.entries.lookup key

theorem get_isSome_iff (m : LinkedMap Key Value) {key : Key} : (m.get key).isSome ↔ key ∈ m.keys := by
  simp [get, keys]

def replace (key : Key) (value : Value) (entry : Key × Value) : Key × Value :=
  if entry.1 = key then (key, value) else entry

@[simp] theorem map_replace_fst (key : Key) (value : Value) (entries : List (Key × Value)) :
    (entries.map (replace key value)).map Prod.fst = entries.map Prod.fst := by
  rw [List.map_map]
  apply List.map_congr_left
  intro entry _
  by_cases same : entry.1 = key <;> simp [replace, same]

def put (m : LinkedMap Key Value) (key : Key) (value : Value) : LinkedMap Key Value :=
  if present : key ∈ m.keys then ⟨m.entries.map (replace key value), by rw [map_replace_fst]; exact m.distinct⟩
  else
    ⟨m.entries ++ [(key, value)], by
      rw [List.map_append]
      exact m.distinct.append (List.nodup_singleton _) (by simpa [keys] using present)⟩

/-- A `put` that consults a hook with the new size after the insertion of a new key. -/
def putEvicting (removes : Nat → Bool) (m : LinkedMap Key Value) (key : Key) (value : Value) : LinkedMap Key Value :=
  let grown := m.put key value
  if key ∈ m.keys then grown
  else if removes grown.size then grown.removeEldest else grown

def putAll (removes : Nat → Bool) (puts : List (Key × Value)) : LinkedMap Key Value :=
  puts.foldl (fun m entry => m.putEvicting removes entry.1 entry.2) empty

def insertAll (puts : List (Key × Value)) : LinkedMap Key Value :=
  puts.foldl (fun m entry => m.put entry.1 entry.2) empty

theorem putAll_snoc (removes : Nat → Bool) (puts : List (Key × Value)) (entry : Key × Value) :
    putAll removes (puts ++ [entry]) = (putAll removes puts).putEvicting removes entry.1 entry.2 := by
  rw [putAll, List.foldl_append]
  rfl

theorem insertAll_snoc (puts : List (Key × Value)) (entry : Key × Value) :
    insertAll (puts ++ [entry]) = (insertAll puts).put entry.1 entry.2 := by
  rw [insertAll, List.foldl_append]
  rfl

section Puts

variable {m : LinkedMap Key Value} {key : Key} (value : Value)

theorem keys_put_present (present : key ∈ m.keys) : (m.put key value).keys = m.keys := by
  rw [put, dif_pos present]
  exact map_replace_fst key value m.entries

theorem keys_put_absent (absent : key ∉ m.keys) : (m.put key value).keys = m.keys ++ [key] := by
  rw [put, dif_neg absent]
  exact List.map_append

theorem mem_keys_put (other : Key) : other ∈ (m.put key value).keys ↔ other ∈ m.keys ∨ other = key := by
  by_cases present : key ∈ m.keys
  · rw [keys_put_present value present]
    constructor
    · exact .inl
    · rintro (member | rfl)
      · exact member
      · exact present
  · rw [keys_put_absent value present, List.mem_append, List.mem_singleton]

theorem size_put_present (present : key ∈ m.keys) : (m.put key value).size = m.size := by
  rw [← keys_length, keys_put_present value present, keys_length]

theorem size_put_absent (absent : key ∉ m.keys) : (m.put key value).size = m.size + 1 := by
  rw [← keys_length, keys_put_absent value absent, List.length_append, keys_length, List.length_singleton]

theorem putEvicting_present {removes : Nat → Bool} (present : key ∈ m.keys) :
    m.putEvicting removes key value = m.put key value := if_pos present

theorem putEvicting_kept {removes : Nat → Bool} (kept : removes (m.size + 1) = false) :
    m.putEvicting removes key value = m.put key value := by
  by_cases present : key ∈ m.keys
  · exact putEvicting_present value present
  · rw [putEvicting, if_neg present, size_put_absent value present, kept]
    exact if_neg Bool.false_ne_true

theorem size_putEvicting_removed {removes : Nat → Bool} (removed : removes (m.size + 1) = true) :
    (m.putEvicting removes key value).size = m.size := by
  by_cases present : key ∈ m.keys
  · rw [putEvicting_present value present, size_put_present value present]
  · rw [putEvicting, if_neg present, size_put_absent value present, removed, if_pos rfl, size, removeEldest,
      List.length_tail]
    exact Nat.sub_eq_of_eq_add (size_put_absent value present)

end Puts

def keysOf (puts : List (Key × Value)) : Finset Key := (puts.map Prod.fst).toFinset

theorem keysOf_snoc (puts : List (Key × Value)) (entry : Key × Value) :
    keysOf (puts ++ [entry]) = insert entry.1 (keysOf puts) := by
  simp [keysOf, Finset.union_comm]

theorem insertAll_keys (puts : List (Key × Value)) : (insertAll puts).keys.toFinset = keysOf puts := by
  induction puts using List.reverseRecOn with
  | nil => rfl
  | append_singleton puts entry ih =>
    rw [insertAll_snoc, keysOf_snoc, ← ih]
    ext key
    simp [mem_keys_put, or_comm]

theorem insertAll_size (puts : List (Key × Value)) : (insertAll puts).size = (keysOf puts).card := by
  rw [← insertAll_keys, List.toFinset_card_of_nodup (keys_nodup _), keys_length]

/-- A map that evicts above a limit holds every key until there are more than the limit, and then as many
    as the limit. -/
theorem putAll_bounded {removes : Nat → Bool} {limit : Nat} (bound : ∀ size, removes size = true ↔ limit < size)
    (puts : List (Key × Value)) :
    ((keysOf puts).card ≤ limit → putAll removes puts = insertAll puts) ∧
      (limit ≤ (keysOf puts).card → (putAll removes puts).size = limit) := by
  induction puts using List.reverseRecOn with
  | nil => exact ⟨fun _ => rfl, fun full => (Nat.le_zero.mp full).symm⟩
  | append_singleton puts entry ih =>
    obtain ⟨small, large⟩ := ih
    have fewer : (keysOf puts).card ≤ (keysOf (puts ++ [entry])).card := by
      rw [keysOf_snoc]
      exact Finset.card_le_card (Finset.subset_insert _ _)
    rw [putAll_snoc, insertAll_snoc]
    constructor
    · intro few
      rw [small (fewer.trans few)]
      by_cases present : entry.1 ∈ (insertAll puts).keys
      · exact putEvicting_present _ present
      · apply putEvicting_kept
        have grown := insertAll_size (puts ++ [entry])
        rw [insertAll_snoc, size_put_absent _ present] at grown
        rw [← Bool.not_eq_true, bound]
        omega
    · intro many
      by_cases full : limit ≤ (keysOf puts).card
      · have size := large full
        rw [size_putEvicting_removed, size]
        rw [bound]
        omega
      · have same := small (by omega)
        have grown := insertAll_size (puts ++ [entry])
        have before := insertAll_size puts
        have step : (keysOf (puts ++ [entry])).card ≤ (keysOf puts).card + 1 := by
          rw [keysOf_snoc]
          exact Finset.card_insert_le _ _
        rw [same, putEvicting_kept, ← insertAll_snoc, grown]
        · omega
        · rw [← Bool.not_eq_true, bound]
          omega

end LinkedMap

end Collections
