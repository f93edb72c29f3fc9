import Mathlib.Data.List.DropRight
import Mathlib.Data.List.TakeWhile

namespace Text

variable {Symbol : Type} {space : Symbol → Bool}

def Spaceless (space : Symbol → Bool) (word : List Symbol) : Prop := ∀ symbol ∈ word, space symbol = false

def Blank (space : Symbol → Bool) (gap : List Symbol) : Prop := ∀ symbol ∈ gap, space symbol = true

instance (word : List Symbol) : Decidable (Spaceless space word) :=
  inferInstanceAs (Decidable (∀ symbol ∈ word, space symbol = false))

@[simp] theorem spaceless_cons {symbol : Symbol} {word : List Symbol} :
    Spaceless space (symbol :: word) ↔ space symbol = false ∧ Spaceless space word := List.forall_mem_cons

@[simp] theorem spaceless_append {word later : List Symbol} :
    Spaceless space (word ++ later) ↔ Spaceless space word ∧ Spaceless space later := List.forall_mem_append

theorem dropWhile_blank {gap word : List Symbol} (blank : Blank space gap)
    (start : ∀ symbol ∈ word.head?, space symbol = false) : (gap ++ word).dropWhile space = word := by
  rw [List.dropWhile_append_of_pos blank]
  cases word with
  | nil => rfl
  | cons symbol rest => simp [start symbol rfl]

theorem rdropWhile_blank {gap word : List Symbol} (blank : Blank space gap)
    (last : ∀ symbol ∈ word.getLast?, space symbol = false) : (word ++ gap).rdropWhile space = word := by
  have reversed : Blank space gap.reverse := fun symbol member => blank symbol (List.mem_reverse.mp member)
  rw [List.rdropWhile, List.reverse_append, dropWhile_blank reversed, List.reverse_reverse]
  rwa [List.head?_reverse]

theorem takeWhile_gap {gap word before : List Symbol} (blank : Blank space gap) (nonempty : word ≠ [])
    (spaceless : Spaceless space word) :
    (before ++ word ++ gap).reverse.takeWhile space = gap.reverse := by
  have last : word.reverse ≠ [] := by simpa using nonempty
  obtain ⟨symbol, others, shape⟩ := List.exists_cons_of_ne_nil last
  have inside : symbol ∈ word := by
    rw [← List.mem_reverse, shape]
    exact List.mem_cons_self
  rw [List.reverse_append, List.reverse_append, shape, List.takeWhile_append_of_pos]
  · simp [spaceless symbol inside]
  · intro other member
    exact blank other (List.mem_reverse.mp member)

theorem gap_unique {gap gap' word word' before before' : List Symbol}
    (same : before ++ word ++ gap = before' ++ word' ++ gap') (blank : Blank space gap) (blank' : Blank space gap')
    (nonempty : word ≠ []) (nonempty' : word' ≠ []) (spaceless : Spaceless space word)
    (spaceless' : Spaceless space word') : gap = gap' ∧ before ++ word = before' ++ word' := by
  have gaps : gap = gap' := by
    apply List.reverse_inj.mp
    rw [← takeWhile_gap blank nonempty spaceless, same, takeWhile_gap blank' nonempty' spaceless']
  subst gaps
  exact ⟨rfl, List.append_cancel_right same⟩

theorem blank_not_mem {word : List Symbol} {blank : Symbol} (spaceless : Spaceless space word)
    (isBlank : space blank = true) : blank ∉ word := by
  intro member
  rw [spaceless blank member] at isBlank
  cases isBlank

theorem suffix_after_blank {before before' word after : List Symbol} {blank : Symbol}
    (same : before ++ word = before' ++ blank :: after) (spaceless : Spaceless space word)
    (isBlank : space blank = true) : word <:+ after := by
  have outside : blank ∉ word := blank_not_mem spaceless isBlank
  rcases List.append_eq_append_iff.mp same with ⟨middle, _, covers⟩ | ⟨middle, _, shorter⟩
  · rw [covers] at outside
    simp at outside
  · cases middle with
    | nil =>
      rw [List.nil_append] at shorter
      rw [← shorter] at outside
      simp at outside
    | cons first rest =>
      rw [List.cons_append, List.cons.injEq] at shorter
      exact ⟨rest, shorter.2.symm⟩

def cutLines [DecidableEq Symbol] (mark : Symbol) (unfinished : List Symbol) : List Symbol → List (List Symbol)
  | [] => []
  | symbol :: rest =>
    if symbol = mark then unfinished :: cutLines mark [] rest else cutLines mark (unfinished ++ [symbol]) rest

variable [DecidableEq Symbol] {mark : Symbol}

theorem cutLines_append (unfinished line rest : List Symbol) (whole : mark ∉ line) :
    cutLines mark unfinished (line ++ mark :: rest) = (unfinished ++ line) :: cutLines mark [] rest := by
  induction line generalizing unfinished with
  | nil => simp [cutLines]
  | cons symbol later ih =>
    rw [List.mem_cons, not_or] at whole
    have other : symbol ≠ mark := Ne.symm whole.1
    rw [List.cons_append, cutLines, if_neg other, ih _ whole.2]
    simp

theorem cutLines_flatMap {Item : Type} (line : Item → List Symbol) (items : List Item)
    (whole : ∀ item ∈ items, mark ∉ line item) :
    cutLines mark [] (items.flatMap fun item => line item ++ [mark]) = items.map line := by
  induction items with
  | nil => rfl
  | cons item later ih =>
    have here := whole item List.mem_cons_self
    rw [List.flatMap_cons, List.append_assoc, List.singleton_append, cutLines_append [] _ _ here,
      ih fun other member => whole other (List.mem_cons_of_mem _ member)]
    simp

theorem mark_not_mem_line (unfinished text : List Symbol) (start : mark ∉ unfinished) :
    ∀ line ∈ cutLines mark unfinished text, mark ∉ line := by
  induction text generalizing unfinished with
  | nil =>
    intro line member
    cases member
  | cons symbol rest ih =>
    rw [cutLines]
    split
    · intro line member
      rcases List.mem_cons.mp member with rfl | later
      · exact start
      · exact ih [] (by simp) line later
    · rename_i other
      apply ih
      simp [start, Ne.symm other]

theorem length_cutLines (unfinished text : List Symbol) :
    (cutLines mark unfinished text).length = text.count mark := by
  induction text generalizing unfinished with
  | nil => rfl
  | cons symbol rest ih =>
    rw [cutLines]
    split
    · rename_i ended
      rw [List.length_cons, ih, ended, List.count_cons_self]
    · rename_i other
      rw [ih, List.count_cons_of_ne other]

theorem mem_of_mem_line (unfinished text : List Symbol) :
    ∀ line ∈ cutLines mark unfinished text, ∀ symbol ∈ line, symbol ∈ unfinished ∨ symbol ∈ text := by
  induction text generalizing unfinished with
  | nil =>
    intro line member
    cases member
  | cons first rest ih =>
    rw [cutLines]
    split
    · intro line member symbol inside
      rcases List.mem_cons.mp member with rfl | later
      · exact .inl inside
      · have found := ih [] line later symbol inside
        simp only [List.not_mem_nil, false_or] at found
        exact .inr (List.mem_cons_of_mem _ found)
    · intro line member symbol inside
      have found := ih _ line member symbol inside
      simp only [List.mem_append, List.mem_singleton] at found
      rcases found with (old | rfl) | later
      · exact .inl old
      · exact .inr List.mem_cons_self
      · exact .inr (List.mem_cons_of_mem _ later)

end Text
