import Demonstrator.Java.Pipeline.BatchStore

namespace TimeQuery

open Pipeline (Exit Request javaSize MAX_STORE_SIZE)

structure Sample where
  sampleTime : Int64
  value1 : Float
  value2 : Float
  deriving DecidableEq

structure Result where
  processingTime : Int64
  result1 : Float
  sample : Option Sample
  deriving DecidableEq

section Storing

variable {Item : Type}

def store (contents : List Item) (result : Item) : List Item :=
  if javaSize contents < MAX_STORE_SIZE then contents ++ [result] else contents

/-- The sum is an int. When it overflows the test is passed, but no array can be made of that length. -/
def storeAll (contents results : List Item) : List Item :=
  if javaSize contents + javaSize results < MAX_STORE_SIZE then
    if contents.length + results.length < 2 ^ 31 then contents ++ results else contents
  else contents

inductive Call (Item : Type) where
  | store (result : Item)
  | storeAll (results : List Item)

def Call.results : Call Item → List Item
  | .store result => [result]
  | .storeAll results => results

def Call.perform (contents : List Item) : Call Item → List Item
  | .store result => TimeQuery.store contents result
  | .storeAll results => TimeQuery.storeAll contents results

def contents (calls : List (Call Item)) : List Item := calls.foldl Call.perform []

def Call.ofRequest : Request → Call Pipeline.Result
  | .store result => .store result
  | .storeAll results => .storeAll results

theorem perform_ofRequest (request : Request) (contents : List Pipeline.Result) :
    (Call.ofRequest request).perform contents = request.perform contents := by
  cases request with
  | store result =>
    simp only [Call.ofRequest, Call.perform, store, Request.perform, Request.passes, decide_eq_true_eq]
    split
    · rename_i room
      have size := Pipeline.InMemoryDataStore.javaSize_toInt contents
      have limit : MAX_STORE_SIZE.toInt = 1000000 := rfl
      rw [Int32.lt_iff_toInt_lt] at room
      have fits : contents.length + (Request.store result).results.length < 2 ^ 31 := by
        rw [Request.results, List.length_singleton]
        omega
      rw [Request.append, if_pos fits]
      rfl
    · rfl
  | storeAll results =>
    simp only [Call.ofRequest, Call.perform, storeAll, Request.perform, Request.passes, decide_eq_true_eq]
    rfl

theorem mem_perform {contents : List Item} {call : Call Item} {result : Item}
    (member : result ∈ call.perform contents) : result ∈ contents ∨ result ∈ call.results := by
  cases call with
  | store stored =>
    simp only [Call.perform, store] at member
    split at member
    · exact List.mem_append.mp member
    · exact .inl member
  | storeAll batch =>
    simp only [Call.perform, storeAll] at member
    split at member
    · split at member
      · exact List.mem_append.mp member
      · exact .inl member
    · exact .inl member

theorem mem_contents {calls : List (Call Item)} {result : Item} (member : result ∈ contents calls) :
    ∃ call ∈ calls, result ∈ call.results := by
  have general : ∀ (calls : List (Call Item)) (start : List Item), result ∈ calls.foldl Call.perform start →
      result ∈ start ∨ ∃ call ∈ calls, result ∈ call.results := by
    intro calls
    induction calls with
    | nil => exact fun start here => .inl here
    | cons call later ih =>
      intro start here
      rcases ih (call.perform start) here with before | ⟨other, listed, inside⟩
      · rcases mem_perform before with old | new
        · exact .inl old
        · exact .inr ⟨call, List.mem_cons_self, new⟩
      · exact .inr ⟨other, List.mem_cons_of_mem _ listed, inside⟩
  exact (general calls [] member).resolve_left List.not_mem_nil

end Storing

/-- The two comparisons of the loop. The longs are converted to doubles. -/
def Sample.Selected (begin' end' : Int64) (sample : Sample) : Prop :=
  Float.ofInt begin'.toInt ≤ sample.value1 ∧ sample.value2 ≤ Float.ofInt end'.toInt

instance (begin' end' : Int64) (sample : Sample) : Decidable (sample.Selected begin' end') :=
  inferInstanceAs (Decidable (_ ∧ _))

def findResultsBetween (begin' end' : Int64) : List Result → Except Exit (List Result)
  | [] => .ok []
  | result :: later =>
    match result.sample with
    | none => .error .nullPointerException
    | some sample =>
      (findResultsBetween begin' end' later).map fun results =>
        if sample.Selected begin' end' then result :: results else results

def Sample.Between (begin' end' : Int64) (sample : Sample) : Prop :=
  begin' ≤ sample.sampleTime ∧ sample.sampleTime ≤ end'

instance (begin' end' : Int64) (sample : Sample) : Decidable (sample.Between begin' end') :=
  inferInstanceAs (Decidable (_ ∧ _))

def Result.Between (begin' end' : Int64) (result : Result) : Prop :=
  ∃ sample ∈ result.sample, sample.Between begin' end'

instance (begin' end' : Int64) (result : Result) : Decidable (result.Between begin' end') :=
  inferInstanceAs (Decidable (∃ sample ∈ result.sample, _))

def ExactQuery (begin' end' : Int64) (stored : List Result) : Prop :=
  findResultsBetween begin' end' stored = .ok (stored.filter fun result => result.Between begin' end')

theorem filter_eq_filter_iff {Item : Type} {first second : Item → Bool} (items : List Item) :
    items.filter first = items.filter second ↔ ∀ item ∈ items, first item = second item := by
  refine ⟨fun same item member => ?_, List.filter_congr⟩
  have listed : item ∈ items.filter first ↔ item ∈ items.filter second := by rw [same]
  rw [List.mem_filter, List.mem_filter, and_iff_right member, and_iff_right member] at listed
  exact Bool.eq_iff_iff.mpr listed

def Result.Selected (begin' end' : Int64) (result : Result) : Prop :=
  ∃ sample ∈ result.sample, sample.Selected begin' end'

instance (begin' end' : Int64) (result : Result) : Decidable (result.Selected begin' end') :=
  inferInstanceAs (Decidable (∃ sample ∈ result.sample, _))

theorem findResultsBetween_eq (begin' end' : Int64) (stored : List Result)
    (present : ∀ result ∈ stored, result.sample ≠ none) :
    findResultsBetween begin' end' stored = .ok (stored.filter fun result => result.Selected begin' end') := by
  induction stored with
  | nil => rfl
  | cons result later ih =>
    rw [List.forall_mem_cons] at present
    obtain ⟨sample, here⟩ := Option.ne_none_iff_exists'.mp present.1
    rw [findResultsBetween, here]
    simp only [ih present.2, Except.map, List.filter_cons, Result.Selected, here, Option.mem_def, Option.some.injEq,
      exists_eq_left', decide_eq_true_eq]

/-- The query is exact just if the values of every stored sample lie in the range as its time does: the
    code compares the values. -/
theorem time_query_exact_iff (calls : List (Call Result)) (begin' end' : Int64)
    (present : ∀ call ∈ calls, ∀ result ∈ call.results, result.sample ≠ none) :
    ExactQuery begin' end' (contents calls) ↔
      ∀ result ∈ contents calls, ∀ sample ∈ result.sample,
        (sample.Selected begin' end' ↔ sample.Between begin' end') := by
  have stored : ∀ result ∈ contents calls, result.sample ≠ none := by
    intro result member
    obtain ⟨call, made, inside⟩ := mem_contents member
    exact present call made result inside
  rw [ExactQuery, findResultsBetween_eq begin' end' _ stored, Except.ok.injEq, filter_eq_filter_iff]
  constructor
  · intro same result member sample here
    simpa [Result.Selected, Result.Between, Option.mem_def.mp here] using same result member
  · intro same result member
    obtain ⟨sample, here⟩ := Option.ne_none_iff_exists'.mp (stored result member)
    simpa [Result.Selected, Result.Between, here] using same result member sample here

def timed (time : Int64) : Result := ⟨10, 1, some ⟨time, Float.ofInt time.toInt, Float.ofInt time.toInt⟩⟩

theorem time_query_exact_timed :
    contents [.store (timed 5), .storeAll [timed 20, timed 7]] = [timed 5, timed 20, timed 7] ∧
      ExactQuery 5 10 (contents [.store (timed 5), .storeAll [timed 20, timed 7]]) := by
  have stored : contents [.store (timed 5), .storeAll [timed 20, timed 7]] = [timed 5, timed 20, timed 7] := by
    decide +kernel
  refine ⟨stored, ?_⟩
  apply (time_query_exact_iff _ 5 10 (by decide +kernel)).mpr
  rw [stored]
  decide +kernel

def misdated : Result := ⟨10, 1, some ⟨1000, 1, 2⟩⟩

/-- The sample of time 1000 has the values 1 and 2, and is found from 0 to 10 in place of 900 to 1100. -/
theorem time_query_by_values :
    findResultsBetween 0 10 (contents [.store misdated]) = .ok [misdated] ∧
      findResultsBetween 900 1100 (contents [.store misdated]) = .ok [] ∧
      ¬ ExactQuery 0 10 (contents [.store misdated]) ∧ ¬ ExactQuery 900 1100 (contents [.store misdated]) := by
  unfold ExactQuery
  decide +kernel

end TimeQuery
