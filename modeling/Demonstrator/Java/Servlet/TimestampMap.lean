import Demonstrator.Arithmetic.Int32
import Demonstrator.Collections.LinkedMap

open Collections

/-- `TimestampMap`, a `LinkedHashMap` with a bound on its size. -/
structure TimestampMap (V : Type) where
  map : LinkedMap Int64 V
  maxSize : Int32
  positive : 1 ≤ maxSize

namespace TimestampMap

variable {V : Type}

inductive Exit where
  | illegalArgumentException (message : String)
  deriving DecidableEq, Repr

def DEFAULT_MAX_SIZE : Int32 := 25

theorem one_le_of_not_lt {maxSize : Int32} (low : ¬ maxSize < 1) : 1 ≤ maxSize := Int32.not_lt.mp low

def create (maxSize : Int32) : Except Exit (TimestampMap V) :=
  if low : maxSize < 1 then .error (.illegalArgumentException "Invalid maximum size!")
  else .ok ⟨.empty, maxSize, one_le_of_not_lt low⟩

def createDefault : TimestampMap V := ⟨.empty, DEFAULT_MAX_SIZE, by decide⟩

/-- Consulted with the size after the insertion. -/
def removeEldestEntry (maxSize : Int32) (size : Nat) : Bool := decide (maxSize.toInt ≤ size)

def put (m : TimestampMap V) (timestamp : Int64) (value : V) : TimestampMap V :=
  { m with map := m.map.putEvicting (removeEldestEntry m.maxSize) timestamp value }

def putAll (m : TimestampMap V) (puts : List (Int64 × V)) : TimestampMap V :=
  puts.foldl (fun m entry => m.put entry.1 entry.2) m

/-- The map that evicts its eldest entry only when it would hold more than `maxSize` entries. -/
def newest (maxSize : Int32) (puts : List (Int64 × V)) : LinkedMap Int64 V :=
  LinkedMap.putAll (fun size => decide (maxSize.toInt < size)) puts

theorem putAll_map (m : TimestampMap V) (puts : List (Int64 × V)) :
    (m.putAll puts).map =
      puts.foldl (fun map entry => map.putEvicting (removeEldestEntry m.maxSize) entry.1 entry.2) m.map := by
  induction puts generalizing m with
  | nil => rfl
  | cons entry later ih => exact ih (m.put entry.1 entry.2)

theorem created_putAll {maxSize : Int32} {m : TimestampMap V} (created : create maxSize = .ok m)
    (puts : List (Int64 × V)) :
    1 ≤ maxSize.toInt ∧ (m.putAll puts).map = LinkedMap.putAll (removeEldestEntry maxSize) puts := by
  unfold create at created
  split at created
  · cases created
  · rename_i low
    cases created
    exact ⟨Int32.le_iff_toInt_le.mp (Int32.not_lt.mp low), putAll_map _ puts⟩

/-- The hook already sees the grown size: the map loses an entry as soon as it has `maxSize` of them. -/
theorem contents_newest_iff {maxSize : Int32} {m : TimestampMap V} (created : create maxSize = .ok m)
    (puts : List (Int64 × V)) :
    (m.putAll puts).map.entries = (newest maxSize puts).entries ↔
      ((LinkedMap.keysOf puts).card : Int) < maxSize.toInt := by
  obtain ⟨positive, contents⟩ := created_putAll created puts
  obtain ⟨limit, size⟩ : ∃ limit : Nat, maxSize.toInt = limit + 1 := ⟨(maxSize.toInt - 1).toNat, by omega⟩
  have code : ∀ size, removeEldestEntry maxSize size = true ↔ limit < size := by
    intro grown
    rw [removeEldestEntry, decide_eq_true_eq]
    omega
  have reference : ∀ size : Nat, decide (maxSize.toInt < size) = true ↔ limit + 1 < size := by
    intro grown
    rw [decide_eq_true_eq]
    omega
  obtain ⟨kept, full⟩ := LinkedMap.putAll_bounded code puts
  obtain ⟨kept', full'⟩ := LinkedMap.putAll_bounded reference puts
  rw [contents, newest]
  constructor
  · intro same
    by_contra many
    have shorter := full (by omega)
    have longer := full' (by omega)
    rw [LinkedMap.size, same] at shorter
    rw [LinkedMap.size] at longer
    omega
  · intro few
    rw [kept (by omega), kept' (by omega)]

theorem contents_newest_two :
    ∃ m : TimestampMap Nat, create 3 = .ok m ∧
      (m.putAll [(1, 10), (2, 20), (1, 11)]).map.entries = (newest 3 [(1, 10), (2, 20), (1, 11)]).entries := by
  refine ⟨⟨.empty, 3, by decide⟩, rfl, ?_⟩
  exact (contents_newest_iff rfl _).mpr (by decide)

theorem contents_one_short :
    ∃ one two : TimestampMap Nat, create 1 = .ok one ∧ create 2 = .ok two ∧
      (one.putAll [(1, 10)]).map.entries ≠ (newest 1 [(1, 10)]).entries ∧ (one.putAll [(1, 10)]).map.entries = [] ∧
      (two.putAll [(1, 10), (2, 20)]).map.entries ≠ (newest 2 [(1, 10), (2, 20)]).entries ∧
      (two.putAll [(1, 10), (2, 20)]).map.entries = [(2, 20)] :=
  ⟨⟨.empty, 1, by decide⟩, ⟨.empty, 2, by decide⟩, rfl, rfl, by decide, by decide, by decide, by decide⟩

end TimestampMap
