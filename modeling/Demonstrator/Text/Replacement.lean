import Demonstrator.Text.Words
import Mathlib.Data.List.Infix

namespace Text

variable {Symbol : Type}

/-- Every run of symbols outside of the class becomes one mark; `inside` says that the run has begun. -/
def collapse (member : Symbol → Bool) (mark : Symbol) (inside : Bool) : List Symbol → List Symbol
  | [] => []
  | symbol :: rest =>
    if member symbol then symbol :: collapse member mark false rest
    else if inside then collapse member mark true rest
    else mark :: collapse member mark true rest

section Collapse

variable {member : Symbol → Bool} {mark : Symbol}

theorem mem_collapse {inside : Bool} {text : List Symbol} {symbol : Symbol}
    (found : symbol ∈ collapse member mark inside text) :
    symbol = mark ∨ symbol ∈ text ∧ member symbol = true := by
  induction text generalizing inside with
  | nil => cases found
  | cons first rest ih =>
    unfold collapse at found
    split at found
    · rename_i kept
      rcases List.mem_cons.mp found with rfl | later
      · exact .inr ⟨List.mem_cons_self, kept⟩
      · exact (ih later).imp_right (And.imp_left (List.mem_cons_of_mem first))
    · split at found
      · exact (ih found).imp_right (And.imp_left (List.mem_cons_of_mem first))
      · rcases List.mem_cons.mp found with rfl | later
        · exact .inl rfl
        · exact (ih later).imp_right (And.imp_left (List.mem_cons_of_mem first))

theorem collapse_ne_nil {text : List Symbol} (nonempty : text ≠ []) : collapse member mark false text ≠ [] := by
  cases text with
  | nil => exact absurd rfl nonempty
  | cons symbol rest =>
    unfold collapse
    split <;> simp

def Collapsed (member : Symbol → Bool) (mark : Symbol) (inside : Bool) : List Symbol → Prop
  | [] => True
  | symbol :: rest =>
    if member symbol then Collapsed member mark false rest
    else inside = false ∧ symbol = mark ∧ Collapsed member mark true rest

theorem collapsed_collapse (outside : member mark = false) (inside : Bool) (text : List Symbol) :
    Collapsed member mark inside (collapse member mark inside text) := by
  induction text generalizing inside with
  | nil => exact True.intro
  | cons symbol rest ih =>
    unfold collapse
    split
    · rename_i kept
      simpa [Collapsed, kept] using ih false
    · cases inside with
      | true => exact ih true
      | false => simpa [Collapsed, outside] using ih true

theorem collapse_of_collapsed {inside : Bool} {text : List Symbol} (collapsed : Collapsed member mark inside text) :
    collapse member mark inside text = text := by
  induction text generalizing inside with
  | nil => rfl
  | cons symbol rest ih =>
    unfold Collapsed at collapsed
    unfold collapse
    split at collapsed
    · rename_i kept
      rw [if_pos kept, ih collapsed]
    · rename_i other
      obtain ⟨begun, marked, later⟩ := collapsed
      rw [if_neg other, begun, ih later, marked]
      rfl

theorem not_adjacent {inside : Bool} {text : List Symbol} (outside : member mark = false)
    (collapsed : Collapsed member mark inside text) : ¬ [mark, mark] <:+: text := by
  induction text generalizing inside with
  | nil => simp
  | cons symbol rest ih =>
    rw [List.infix_cons_iff]
    unfold Collapsed at collapsed
    split at collapsed
    · rename_i kept
      rintro (start | later)
      · have same := (List.cons_prefix_cons.mp start).1
        rw [← same, outside] at kept
        cases kept
      · exact ih collapsed later
    · rintro (start | later)
      · obtain ⟨_, follows⟩ := List.cons_prefix_cons.mp start
        obtain ⟨others, rfl⟩ := follows
        simp [Collapsed, outside] at collapsed
      · exact ih collapsed.2.2 later

end Collapse

theorem intercalate_mark (mark : Symbol) {lines : List (List Symbol)} (nonempty : lines ≠ []) :
    [mark].intercalate lines ++ [mark] = lines.flatMap fun line => line ++ [mark] := by
  induction lines with
  | nil => exact absurd rfl nonempty
  | cons line later ih =>
    cases later with
    | nil => simp
    | cons second others =>
      have rest := ih (List.cons_ne_nil second others)
      rw [List.flatMap_cons, ← rest]
      simp [List.intercalate_cons_cons]

theorem cutLines_intercalate [DecidableEq Symbol] {mark : Symbol} {lines : List (List Symbol)} (nonempty : lines ≠ [])
    (whole : ∀ line ∈ lines, mark ∉ line) : cutLines mark [] ([mark].intercalate lines ++ [mark]) = lines := by
  rw [intercalate_mark mark nonempty, cutLines_flatMap _ _ whole, List.map_id']

end Text
