import Mathlib.Data.Option.Basic
import Mathlib.Algebra.Ring.Int.Defs

namespace ConfigUtils

/-- The zeros of the runs of ten decimal digits that a `char` can hold. -/
def decimalZeros : List Nat :=
  [0x30, 0x660, 0x6F0, 0x7C0, 0x966, 0x9E6, 0xA66, 0xAE6, 0xB66, 0xBE6, 0xC66, 0xCE6, 0xD66, 0xE50, 0xED0,
    0xF20, 0x1040, 0x1090, 0x17E0, 0x1810, 0x1946, 0x19D0, 0x1A80, 0x1A90, 0x1B50, 0x1BB0, 0x1C40, 0x1C50,
    0xA620, 0xA8D0, 0xA900, 0xA9D0, 0xAA50, 0xABF0, 0xFF10]

def digit (c : Char) : Option Nat :=
  (decimalZeros.find? fun base => decide (base ≤ c.toNat ∧ c.toNat < base + 10)).map fun base => c.toNat - base

def accumulate : List Char → Nat → Option Nat
  | [], value => some value
  | c :: rest, value => (digit c).bind fun next => accumulate rest (10 * value + next)

def signed : List Char → Bool × List Char
  | '-' :: digits => (true, digits)
  | '+' :: digits => (false, digits)
  | digits => (false, digits)

/-- `Integer.parseInt`; `none` is the `NumberFormatException`. -/
def parseInt (text : String) : Option Int32 :=
  let (negative, digits) := signed text.toList
  if digits.isEmpty then none
  else
    (accumulate digits 0).bind fun magnitude =>
      let value : Int := if negative then -magnitude else magnitude
      if -2 ^ 31 ≤ value ∧ value < 2 ^ 31 then some (Int32.ofInt value) else none

theorem accumulate_append (left right : List Char) (value : Nat) :
    accumulate (left ++ right) value = (accumulate left value).bind (accumulate right) := by
  induction left generalizing value with
  | nil => rfl
  | cons c rest ih =>
    simp only [List.cons_append, accumulate]
    cases digit c with
    | none => rfl
    | some next => exact ih _

theorem digit_digitChar (value : Nat) (small : value < 10) : digit (Nat.digitChar value) = some value := by
  have all : ∀ value < 10, digit (Nat.digitChar value) = some value := by decide
  exact all value small

theorem accumulate_toDigits (value : Nat) : accumulate (Nat.toDigits 10 value) 0 = some value := by
  induction value using Nat.strongRecOn with
  | ind value ih =>
    by_cases small : value < 10
    · rw [Nat.toDigits_of_lt_base small]
      simp [accumulate, digit_digitChar value small]
    · have last : value % 10 < 10 := Nat.mod_lt value (by decide)
      have whole : 10 * (value / 10) + value % 10 = value := Nat.div_add_mod value 10
      rw [Nat.toDigits_of_base_le (by decide) (by omega), accumulate_append, ih (value / 10) (by omega)]
      simp [accumulate, digit_digitChar (value % 10) last, whole]

theorem signed_toDigits (value : Nat) : signed (Nat.toDigits 10 value) = (false, Nat.toDigits 10 value) := by
  cases digits : Nat.toDigits 10 value with
  | nil => rfl
  | cons c rest =>
    have decimal : c.isDigit := by
      apply Nat.isDigit_of_mem_toDigits (b := 10) (n := value) (by decide) (by decide)
      rw [digits]
      exact List.mem_cons_self
    have minus : c ≠ '-' := by
      intro same
      subst same
      exact absurd decimal (by decide)
    have plus : c ≠ '+' := by
      intro same
      subst same
      exact absurd decimal (by decide)
    simp [signed, minus, plus]

theorem parseInt_of_signed {text : String} {negative : Bool} {digits : List Char} {magnitude : Nat} {value : Int32}
    (parts : signed text.toList = (negative, digits)) (nonempty : digits.isEmpty = false)
    (read : accumulate digits 0 = some magnitude)
    (number : (if negative then -(magnitude : Int) else magnitude) = value.toInt) : parseInt text = some value := by
  have range : -2 ^ 31 ≤ value.toInt ∧ value.toInt < 2 ^ 31 := ⟨value.le_toInt, value.toInt_lt⟩
  simp only [parseInt, parts, nonempty, read, Bool.false_eq_true, if_false, Option.bind_some]
  rw [number, if_pos range, Int32.ofInt_toInt]

theorem parseInt_repr (value : Int32) : parseInt value.toInt.repr = some value := by
  cases number : value.toInt with
  | ofNat magnitude =>
    have parts : signed (Int.repr (.ofNat magnitude)).toList = (false, Nat.toDigits 10 magnitude) := by
      rw [Int.repr, Nat.toList_repr, signed_toDigits]
    apply parseInt_of_signed parts _ (accumulate_toDigits magnitude)
    · rw [number]
      rfl
    · simp [Nat.toDigits_ne_nil]
  | negSucc rest =>
    have parts : signed (Int.repr (.negSucc rest)).toList = (true, Nat.toDigits 10 (rest + 1)) := by
      rw [Int.repr, String.toList_append, Nat.toList_repr]
      rfl
    apply parseInt_of_signed parts _ (accumulate_toDigits (rest + 1))
    · rw [number]
      rfl
    · simp [Nat.toDigits_ne_nil]

example : parseInt "-42" = some (-42) := by decide
example : parseInt "+2147483648" = none := by decide

/-- A `Dictionary<String, ?>`, with each value as its `toString`. -/
abbrev Dictionary := String → Option String

structure ConfigurationException where
  key : String
  message : String
  deriving DecidableEq, Repr

def getIntValue (properties : Dictionary) (key : String) : Except ConfigurationException Int32 :=
  match properties key with
  | none => .error ⟨key, "missing value!"⟩
  | some value =>
    match parseInt value with
    | none => .error ⟨key, "not an integer"⟩
    | some number => .ok number

theorem getIntValue_error {properties : Dictionary} {key : String} {e : ConfigurationException}
    (failed : getIntValue properties key = .error e) : e.key = key := by
  unfold getIntValue at failed
  split at failed
  · cases failed
    rfl
  · split at failed <;> cases failed
    rfl

theorem bind_error {Error Value Result : Type} {read : Except Error Value} {rest : Value → Except Error Result}
    {e : Error} (failed : (read >>= rest) = .error e) :
    read = .error e ∨ ∃ value, read = .ok value ∧ rest value = .error e := by
  cases read with
  | error found =>
    cases failed
    exact .inl rfl
  | ok value => exact .inr ⟨value, rfl, failed⟩

end ConfigUtils
