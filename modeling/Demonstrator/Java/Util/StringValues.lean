import Demonstrator.Java.Util.ConfigUtils
import Demonstrator.Text.Words
import Mathlib.Algebra.Group.Nat.Defs
import Mathlib.Data.List.DropRight

namespace ConfigUtils

open Text

/-- `String.trim` takes away everything up to the space, control characters included. -/
def trimmed (c : Char) : Bool := decide (c.toNat ≤ 0x20)

def trim (text : List Char) : List Char := (text.dropWhile trimmed).rdropWhile trimmed

def whitespace (c : Char) : Bool := c == ' ' || decide (9 ≤ c.toNat ∧ c.toNat ≤ 13)

/-- The segments after the first comma: each comma takes the white space on both sides with it. -/
def betweenCommas : List (List Char) → List (List Char)
  | [] => []
  | [last] => [last.dropWhile whitespace]
  | segment :: later => (segment.dropWhile whitespace).rdropWhile whitespace :: betweenCommas later

/-- `String.split` at `\s*,\s*`. Without a comma the text is the only part, also when it is empty;
    otherwise the empty parts at the end are dropped. -/
def splitAtCommas (text : List Char) : List (List Char) :=
  match cutLines ',' [] (text ++ [',']) with
  | [] => []
  | [whole] => [whole]
  | first :: later => (first.rdropWhile whitespace :: betweenCommas later).rdropWhile List.isEmpty

theorem length_betweenCommas (segments : List (List Char)) :
    (betweenCommas segments).length = segments.length := by
  fun_induction betweenCommas segments with
  | case1 => rfl
  | case2 last => rfl
  | case3 segment later _ ih => rw [List.length_cons, List.length_cons, ih]

theorem betweenCommas_empty (segments : List (List Char)) (empty : ∀ segment ∈ segments, segment = []) :
    ∀ part ∈ betweenCommas segments, part = [] := by
  fun_induction betweenCommas segments with
  | case1 => simp
  | case2 last =>
    have last := empty _ List.mem_cons_self
    simp [last]
  | case3 segment later _ ih =>
    rw [List.forall_mem_cons] at empty ⊢
    exact ⟨by simp [empty.1], ih empty.2⟩

/-- The parts of a Java string fit into a Java array: when every character is a comma they are all
    dropped, and otherwise there are at most as many as characters. -/
theorem length_splitAtCommas (text : List Char) (bound : text.length < 2 ^ 31) :
    (splitAtCommas text).length < 2 ^ 31 := by
  have count : (cutLines ',' [] (text ++ [','])).length = (text ++ [',']).count ',' := length_cutLines [] _
  rw [List.count_append, List.count_singleton_self] at count
  have most : text.count ',' ≤ text.length := List.count_le_length
  unfold splitAtCommas
  split
  · decide
  · exact (by decide : 1 < 2 ^ 31)
  · rename_i first later _ segments
    rw [segments, List.length_cons] at count
    by_cases commas : text.count ',' = text.length
    · have empty : ∀ segment ∈ first :: later, segment = [] := by
        intro segment member
        apply List.eq_nil_iff_forall_not_mem.mpr
        intro symbol inside
        rw [← segments] at member
        have outside := mark_not_mem_line [] (text ++ [',']) (by simp) segment member
        have found := mem_of_mem_line [] (text ++ [',']) segment member symbol inside
        have comma : ',' = symbol := by
          simp only [List.not_mem_nil, List.mem_append, List.mem_singleton, false_or] at found
          rcases found with listed | last
          · exact List.count_eq_length.mp commas symbol listed
          · exact last.symm
        exact outside (comma ▸ inside)
      have none : (first.rdropWhile whitespace :: betweenCommas later).rdropWhile List.isEmpty = [] := by
        rw [List.rdropWhile_eq_nil_iff]
        rw [List.forall_mem_cons] at empty
        intro part member
        rcases List.mem_cons.mp member with rfl | behind
        · simp [empty.1]
        · simp [betweenCommas_empty later empty.2 part behind]
      rw [none]
      decide
    · have parts := (List.rdropWhile_prefix List.isEmpty
        (first.rdropWhile whitespace :: betweenCommas later)).length_le
      rw [List.length_cons, length_betweenCommas] at parts
      omega

theorem length_trim_le (text : List Char) : (trim text).length ≤ text.length := by
  have right := (List.rdropWhile_prefix trimmed (text.dropWhile trimmed)).length_le
  have left := (List.dropWhile_suffix trimmed (l := text)).length_le
  exact Nat.le_trans right left

/-- A value of a `Dictionary<String, ?>`: its `toString`, and its elements when it is a `String[]`. -/
structure Value where
  text : String
  array : Option { strings : List String // strings.length < 2 ^ 31 }
  length_lt : text.toList.length < 2 ^ 31

abbrev Properties := String → Option Value

def Properties.texts (properties : Properties) : Dictionary := fun key => (properties key).map Value.text

def Value.strings (value : Value) : { strings : List String // strings.length < 2 ^ 31 } :=
  match value.array with
  | some strings => strings
  | none => ⟨(splitAtCommas (trim value.text.toList)).map String.ofList, by
      rw [List.length_map]
      exact length_splitAtCommas _ (Nat.lt_of_le_of_lt (length_trim_le _) value.length_lt)⟩

def getStringValue (properties : Dictionary) (key : String) : Except ConfigurationException String :=
  match properties key with
  | none => .error ⟨key, "missing value!"⟩
  | some value =>
    let result := trim value.toList
    if result = [] then .error ⟨key, "empty value!"⟩ else .ok (String.ofList result)

def getStringArrayValue (properties : Properties) (key : String) :
    Except ConfigurationException { strings : List String // strings ≠ [] ∧ strings.length < 2 ^ 31 } :=
  match properties key with
  | none => .error ⟨key, "missing value!"⟩
  | some value =>
    if empty : value.strings.1 = [] then .error ⟨key, "empty value!"⟩
    else .ok ⟨value.strings.1, empty, value.strings.2⟩

theorem getStringValue_error {properties : Dictionary} {key : String} {e : ConfigurationException}
    (failed : getStringValue properties key = .error e) : e.key = key := by
  unfold getStringValue at failed
  split at failed
  · cases failed
    rfl
  · dsimp only at failed
    split at failed <;> cases failed
    rfl

theorem getStringArrayValue_error {properties : Properties} {key : String} {e : ConfigurationException}
    (failed : getStringArrayValue properties key = .error e) : e.key = key := by
  unfold getStringArrayValue at failed
  split at failed
  · cases failed
    rfl
  · split at failed <;> cases failed
    rfl

example : splitAtCommas " a , b,,c ,, ".toList = [" a".toList, ['b'], [], ['c']] := by decide
example : splitAtCommas [','] = [] := by decide
example : splitAtCommas [] = [[]] := by decide

end ConfigUtils
