import Demonstrator.Java.Util.StringValues
import Demonstrator.Text.Replacement
import Mathlib.Data.List.DropRight
import Mathlib.Tactic.Tauto

namespace Servlet

open Text

def wordCharacter (c : Char) : Bool := c.isAlphanum || c == '_'

def NameCharacter (c : Char) : Prop := c.isLower = true ∨ c.isDigit = true ∨ c = '_' ∨ c = '-'

instance : DecidablePred NameCharacter := fun c => inferInstanceAs (Decidable (c.isLower = true ∨ _))

/-- `String.toLowerCase` depends on the default locale of the virtual machine and its Unicode tables. What the
    endpoint needs of it holds for all of them. -/
structure Locale where
  toLowerCase : List Char → List Char
  nonempty : ∀ text, text ≠ [] → toLowerCase text ≠ []
  lower : ∀ text, ∀ c ∈ toLowerCase text, c.isUpper = false
  fixed : ∀ text, (∀ c ∈ text, NameCharacter c) → toLowerCase text = text

theorem toLower_nameCharacter {c : Char} (name : NameCharacter c) : c.toLower = c := by
  rcases name with lower | decimal | rfl | rfl
  · delta Char.isLower at lower
    delta Char.toLower
    split <;> grind [UInt32.le_iff_toNat_le]
  · delta Char.isDigit at decimal
    delta Char.toLower
    split <;> grind [UInt32.le_iff_toNat_le]
  · rfl
  · rfl

theorem isUpper_toLower (c : Char) : c.toLower.isUpper = false := by
  delta Char.isUpper Char.toLower
  split <;> grind [UInt32.toNat_add, Char.toNat_val]

/-- The lower case of names in ASCII, outside of the Turkic locales. -/
def asciiLocale : Locale where
  toLowerCase text := text.map Char.toLower
  nonempty text nonempty := by simpa using nonempty
  lower text c member := by
    obtain ⟨original, _, rfl⟩ := List.mem_map.mp member
    exact isUpper_toLower original
  fixed text characters := by
    have same : ∀ c ∈ text, c.toLower = id c := fun c member => toLower_nameCharacter (characters c member)
    rw [List.map_congr_left same, List.map_id]

def getName (locale : Locale) (name : String) : String :=
  String.ofList (collapse wordCharacter '-' false (locale.toLowerCase name.toList))

/-- `String.split` at a comma. Without one the text is the only part. -/
def split (text : List Char) : List (List Char) :=
  match cutLines ',' [] (text ++ [',']) with
  | [whole] => [whole]
  | parts => parts.rdropWhile List.isEmpty

def wantedNames : Option String → List String
  | none => []
  | some queryInfo =>
    if ConfigUtils.trim queryInfo.toList = [] then [] else (split queryInfo.toList).map String.ofList

def wanted (names : List String) (name : String) : Bool := names.isEmpty || names.contains name

theorem not_upper_lower {c : Char} (word : wordCharacter c = true) (lower : c.isUpper = false) : NameCharacter c := by
  change (((c.isUpper || c.isLower) || c.isDigit) || c == '_') = true at word
  simp only [lower, Bool.false_or, Bool.or_eq_true, beq_iff_eq] at word
  unfold NameCharacter
  tauto

theorem nameCharacter_getName (locale : Locale) (name : String) : ∀ c ∈ (getName locale name).toList, NameCharacter c := by
  intro c member
  rw [getName, String.toList_ofList] at member
  rcases mem_collapse member with rfl | ⟨present, word⟩
  · exact .inr (.inr (.inr rfl))
  · exact not_upper_lower word (locale.lower _ c present)

theorem collapsed_getName (locale : Locale) (name : String) :
    Collapsed wordCharacter '-' false (getName locale name).toList := by
  rw [getName, String.toList_ofList]
  exact collapsed_collapse (by decide) false _

theorem getName_getName (locale : Locale) (name : String) : getName locale (getName locale name) = getName locale name := by
  rw [getName, locale.fixed _ (nameCharacter_getName locale name), collapse_of_collapsed (collapsed_getName locale name),
    String.ofList_toList]

theorem getName_ne_empty (locale : Locale) {name : String} (nonempty : name ≠ "") : getName locale name ≠ "" := by
  rw [← String.toList_eq_nil_iff.ne, getName, String.toList_ofList]
  apply collapse_ne_nil
  apply locale.nonempty
  exact String.toList_eq_nil_iff.not.mpr nonempty

theorem trim_ne_nil {c : Char} {text : List Char} (member : c ∈ text) (kept : ConfigUtils.trimmed c = false) :
    ConfigUtils.trim text ≠ [] := by
  intro none
  rw [ConfigUtils.trim, List.rdropWhile_eq_nil_iff] at none
  rw [← List.takeWhile_append_dropWhile (p := ConfigUtils.trimmed) (l := text), List.mem_append] at member
  have gone : ConfigUtils.trimmed c = true := member.elim List.mem_takeWhile_imp (none c)
  rw [kept] at gone
  cases gone

theorem nameCharacter_ge {c : Char} (name : NameCharacter c) : 45 ≤ c.toNat := by
  rcases name with lower | decimal | rfl | rfl
  · delta Char.isLower at lower
    simp only [Bool.and_eq_true, decide_eq_true_eq, ge_iff_le, UInt32.le_iff_toNat_le] at lower
    have low : 97 ≤ c.toNat := lower.1
    omega
  · delta Char.isDigit at decimal
    simp only [Bool.and_eq_true, decide_eq_true_eq, ge_iff_le, UInt32.le_iff_toNat_le] at decimal
    have low : 48 ≤ c.toNat := decimal.1
    omega
  · decide
  · decide

theorem split_joined {names : List (List Char)} (some' : names ≠ []) (nonempty : ∀ name ∈ names, name ≠ [])
    (whole : ∀ name ∈ names, ',' ∉ name) : split ([','].intercalate names) = names := by
  have parts := cutLines_intercalate some' whole
  unfold split
  split
  · rename_i only found
    exact found.symm.trans parts
  · rw [parts, List.rdropWhile_eq_self_iff]
    intro _ last
    exact nonempty _ (List.getLast_mem some') (List.isEmpty_iff.mp last)

theorem wantedNames_joined {names : List String} (some' : names ≠ []) (nonempty : ∀ name ∈ names, name ≠ "")
    (characters : ∀ name ∈ names, ∀ c ∈ name.toList, NameCharacter c) :
    wantedNames (some (",".intercalate names)) = names := by
  have text : (",".intercalate names).toList = [','].intercalate (names.map String.toList) :=
    String.toList_intercalate
  have kept : ConfigUtils.trim ([','].intercalate (names.map String.toList)) ≠ [] := by
    obtain ⟨name, others, rfl⟩ := List.exists_cons_of_ne_nil some'
    obtain ⟨c, rest, shape⟩ :=
      List.exists_cons_of_ne_nil (String.toList_eq_nil_iff.not.mpr (nonempty name List.mem_cons_self))
    have first : NameCharacter c := characters name List.mem_cons_self c (shape ▸ List.mem_cons_self)
    have high := nameCharacter_ge first
    have member : c ∈ [','].intercalate ((name :: others).map String.toList) := by
      cases others <;> simp [List.intercalate_cons_cons, shape]
    apply trim_ne_nil member
    rw [ConfigUtils.trimmed, decide_eq_false_iff_not]
    omega
  have parts : split ([','].intercalate (names.map String.toList)) = names.map String.toList := by
    apply split_joined
    · simpa using some'
    · intro characters' member
      obtain ⟨name, listed, rfl⟩ := List.mem_map.mp member
      exact String.toList_eq_nil_iff.not.mpr (nonempty name listed)
    · intro characters' member comma
      obtain ⟨name, listed, rfl⟩ := List.mem_map.mp member
      exact absurd (nameCharacter_ge (characters name listed ',' comma)) (by decide)
  rw [wantedNames, text, if_neg kept, parts, List.map_map]
  simp

end Servlet
