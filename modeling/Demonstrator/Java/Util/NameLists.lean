import Demonstrator.Java.Util.StringValues

namespace ConfigUtils

open Text

/-- A name that neither `trim` nor the white space around a comma can touch. -/
structure ProperName (name : List Char) : Prop where
  nonempty : name ≠ []
  comma : ',' ∉ name
  first : ∀ c ∈ name.head?, trimmed c = false ∧ whitespace c = false
  last : ∀ c ∈ name.getLast?, trimmed c = false ∧ whitespace c = false

structure Entry where
  before : List Char
  after : List Char
  name : List Char

structure Entry.Proper (entry : Entry) : Prop where
  before : Blank whitespace entry.before
  after : Blank whitespace entry.after
  name : ProperName entry.name

def Entry.text (entry : Entry) : List Char := entry.before ++ ',' :: (entry.after ++ entry.name)

def joined (name : List Char) (entries : List Entry) : List Char := name ++ entries.flatMap Entry.text

def segments (first : List Char) : List Entry → List (List Char)
  | [] => [first]
  | entry :: later => (first ++ entry.before) :: segments (entry.after ++ entry.name) later

theorem segments_ne_nil (first : List Char) (entries : List Entry) : segments first entries ≠ [] := by
  cases entries <;> simp [segments]

theorem comma_not_blank {gap : List Char} (blank : Blank whitespace gap) : ',' ∉ gap := by
  intro member
  have wrong := blank ',' member
  revert wrong
  decide

theorem whitespace_trimmed {c : Char} (space : whitespace c = true) : trimmed c = true := by
  rw [whitespace, Bool.or_eq_true, beq_iff_eq, decide_eq_true_eq] at space
  rw [trimmed, decide_eq_true_eq]
  rcases space with rfl | range
  · decide
  · omega

theorem cutLines_joined (first : List Char) (entries : List Entry) (comma : ',' ∉ first)
    (proper : ∀ entry ∈ entries, entry.Proper) :
    cutLines ',' [] (joined first entries ++ [',']) = segments first entries := by
  induction entries generalizing first with
  | nil =>
    have only := cutLines_append [] first [] comma
    simpa [joined, segments, cutLines] using only
  | cons entry later ih =>
    rw [List.forall_mem_cons] at proper
    obtain ⟨here, others⟩ := proper
    have line : ',' ∉ first ++ entry.before := by
      rw [List.mem_append, not_or]
      exact ⟨comma, comma_not_blank here.before⟩
    have next : ',' ∉ entry.after ++ entry.name := by
      rw [List.mem_append, not_or]
      exact ⟨comma_not_blank here.after, here.name.comma⟩
    have shape : joined first (entry :: later) ++ [','] =
        (first ++ entry.before) ++ ',' :: (joined (entry.after ++ entry.name) later ++ [',']) := by
      simp [joined, Entry.text]
    rw [shape, cutLines_append [] _ _ line, ih _ next others]
    rfl

theorem ProperName.drop_before {name gap : List Char} (proper : ProperName name) (blank : Blank whitespace gap)
    (rest : List Char) : (gap ++ (name ++ rest)).dropWhile whitespace = name ++ rest := by
  apply dropWhile_blank blank
  intro c member
  apply (proper.first c _).2
  obtain ⟨symbol, others, rfl⟩ := List.exists_cons_of_ne_nil proper.nonempty
  exact member

theorem ProperName.drop_after {name gap : List Char} (proper : ProperName name) (blank : Blank whitespace gap) :
    (name ++ gap).rdropWhile whitespace = name :=
  rdropWhile_blank blank fun c member => (proper.last c member).2

theorem betweenCommas_segments (gap name : List Char) (blank : Blank whitespace gap) (proper : ProperName name)
    (entries : List Entry) (others : ∀ entry ∈ entries, entry.Proper) :
    betweenCommas (segments (gap ++ name) entries) = name :: entries.map Entry.name := by
  induction entries generalizing gap name with
  | nil =>
    have dropped := proper.drop_before blank []
    rw [List.append_nil] at dropped
    simp [segments, betweenCommas, dropped]
  | cons entry later ih =>
    rw [List.forall_mem_cons] at others
    have rest := ih entry.after entry.name others.1.after others.1.name others.2
    have dropped : ((gap ++ name ++ entry.before).dropWhile whitespace).rdropWhile whitespace = name := by
      rw [List.append_assoc, proper.drop_before blank, proper.drop_after others.1.before]
    rw [segments, betweenCommas, dropped, rest]
    · rfl
    · exact segments_ne_nil _ later

theorem splitAtCommas_joined (name : List Char) (proper : ProperName name) (entries : List Entry)
    (others : ∀ entry ∈ entries, entry.Proper) :
    splitAtCommas (joined name entries) = name :: entries.map Entry.name := by
  unfold splitAtCommas
  rw [cutLines_joined name entries proper.comma others]
  cases entries with
  | nil => rfl
  | cons entry later =>
    have here := others entry List.mem_cons_self
    have parts : betweenCommas (segments (entry.after ++ entry.name) later) = (entry :: later).map Entry.name :=
      betweenCommas_segments entry.after entry.name here.after here.name later fun other member =>
        others other (List.mem_cons_of_mem entry member)
    obtain ⟨second, rest, shape⟩ := List.exists_cons_of_ne_nil (segments_ne_nil (entry.after ++ entry.name) later)
    rw [segments]
    simp only [shape]
    rw [← shape, parts, proper.drop_after here.before, List.rdropWhile_eq_self_iff]
    -- no part is dropped at the end, since every name has a character
    intro some' last
    have listed := List.getLast_mem some'
    rw [List.isEmpty_iff.mp last, List.mem_cons] at listed
    rcases listed with empty | among
    · exact proper.nonempty empty.symm
    · obtain ⟨other, member, empty⟩ := List.mem_map.mp among
      exact (others other member).name.nonempty empty

theorem joined_ends {name : List Char} (proper : ProperName name) (entries : List Entry)
    (others : ∀ entry ∈ entries, entry.Proper) :
    ∃ start last, joined name entries = start ++ last ∧ ProperName last := by
  cases entries using List.reverseRecOn with
  | nil => exact ⟨[], name, by simp [joined], proper⟩
  | append_singleton earlier entry =>
    refine ⟨name ++ earlier.flatMap Entry.text ++ entry.before ++ ',' :: entry.after, entry.name, ?_,
      (others entry (by simp)).name⟩
    simp [joined, Entry.text]

theorem trim_joined {leading trailing name : List Char} (before : Blank whitespace leading)
    (after : Blank whitespace trailing) (proper : ProperName name) (entries : List Entry)
    (others : ∀ entry ∈ entries, entry.Proper) :
    trim (leading ++ joined name entries ++ trailing) = joined name entries := by
  have dropped : (leading ++ (joined name entries ++ trailing)).dropWhile trimmed = joined name entries ++ trailing := by
    apply dropWhile_blank fun c member => whitespace_trimmed (before c member)
    obtain ⟨symbol, rest, rfl⟩ := List.exists_cons_of_ne_nil proper.nonempty
    intro c member
    exact (proper.first c member).1
  obtain ⟨start, last, shape, ends⟩ := joined_ends proper entries others
  rw [trim, List.append_assoc, dropped]
  apply rdropWhile_blank fun c member => whitespace_trimmed (after c member)
  rw [shape, List.getLast?_append_of_ne_nil start ends.nonempty]
  intro c member
  exact (ends.last c member).1

/-- The list of names comes back, whatever white space stands around the commas and the whole. -/
theorem names_round_trip {properties : Properties} {key : String} {value : Value}
    (configured : properties key = some value) (text : value.array = none) (leading trailing name : List Char)
    (entries : List Entry) (before : Blank whitespace leading) (after : Blank whitespace trailing)
    (proper : ProperName name) (others : ∀ entry ∈ entries, entry.Proper)
    (written : value.text.toList = leading ++ joined name entries ++ trailing) :
    (getStringArrayValue properties key).map Subtype.val =
      .ok ((name :: entries.map Entry.name).map String.ofList) := by
  have strings : value.strings.1 = (name :: entries.map Entry.name).map String.ofList := by
    simp only [Value.strings, text, written, trim_joined before after proper entries others,
      splitAtCommas_joined name proper entries others]
  simp [getStringArrayValue, configured, strings, Except.map]

def controllerNames : Value := ⟨" producer a\t,\n producer-b,c  ", none, by decide⟩

theorem controllerNames_round_trip :
    (getStringArrayValue (fun _ => some controllerNames) "names").map Subtype.val =
      .ok ["producer a", "producer-b", "c"] := by
  have first : ProperName "producer a".toList :=
    ⟨by decide, by decide, by simp [trimmed, whitespace], by simp [trimmed, whitespace]⟩
  have second : ProperName "producer-b".toList :=
    ⟨by decide, by decide, by simp [trimmed, whitespace], by simp [trimmed, whitespace]⟩
  have third : ProperName ['c'] :=
    ⟨by decide, by decide, by simp [trimmed, whitespace], by simp [trimmed, whitespace]⟩
  apply names_round_trip rfl rfl [' '] [' ', ' '] "producer a".toList
    [⟨['\t'], ['\n', ' '], "producer-b".toList⟩, ⟨[], [], ['c']⟩] (by simp [Blank, whitespace])
    (by simp [Blank, whitespace]) first
  · rw [List.forall_mem_cons, List.forall_mem_singleton]
    exact ⟨⟨by simp [Blank, whitespace], by simp [Blank, whitespace], second⟩, by simp [Blank], by simp [Blank], third⟩
  · decide

end ConfigUtils
