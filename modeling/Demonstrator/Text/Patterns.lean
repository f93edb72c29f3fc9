import Mathlib.Data.List.Basic
import Mathlib.Data.List.Forall2
import Mathlib.Data.List.Infix
import Mathlib.Data.List.TakeWhile

namespace Text

variable {Symbol : Type}

/-- A pattern of a backtracking matcher: the ways in which it matches a start of the text, the
    preferred one first. -/
structure Pattern (Symbol : Type) where
  splits : List Symbol → List (List Symbol × List Symbol)
  sound : ∀ text piece rest, (piece, rest) ∈ splits text → piece ++ rest = text

def Pattern.run (member : Symbol → Bool) (least : Nat) : Pattern Symbol where
  splits text :=
    ((List.range ((text.takeWhile member).length + 1)).reverse.filter (least ≤ ·)).map fun length =>
      (text.take length, text.drop length)
  sound := by
    intro text piece rest found
    obtain ⟨length, _, same⟩ := List.mem_map.mp found
    cases same
    exact List.take_append_drop length text

def Pattern.oneOf [DecidableEq Symbol] (words : List (List Symbol)) : Pattern Symbol where
  splits text := (words.filter (·.isPrefixOf text)).map fun word => (word, text.drop word.length)
  sound := by
    intro text piece rest found
    obtain ⟨word, listed, same⟩ := List.mem_map.mp found
    cases same
    obtain ⟨tail, rfl⟩ := List.isPrefixOf_iff_prefix.mp (List.mem_filter.mp listed).2
    simp

def Pattern.shape (classes : List (Symbol → Bool)) : Pattern Symbol where
  splits text :=
    if classes.length ≤ text.length ∧ (classes.zipWith (· ·) text).all id then
      [(text.take classes.length, text.drop classes.length)]
    else []
  sound := by
    intro text piece rest found
    split at found
    · cases List.mem_singleton.mp found
      exact List.take_append_drop classes.length text
    · cases found

def sequence : List (Pattern Symbol) → List Symbol → List (List (List Symbol) × List Symbol)
  | [], text => [([], text)]
  | pattern :: later, text =>
    (pattern.splits text).flatMap fun split =>
      (sequence later split.2).map fun found => (split.1 :: found.1, found.2)

def search (patterns : List (Pattern Symbol)) (text : List Symbol) : Option (List (List Symbol)) :=
  text.tails.findSome? fun start => (sequence patterns start).head?.map Prod.fst

def Pattern.Yields (pattern : Pattern Symbol) (piece : List Symbol) : Prop :=
  ∃ text rest, (piece, rest) ∈ pattern.splits text

theorem sequence_sound (patterns : List (Pattern Symbol)) (text rest : List Symbol) (pieces : List (List Symbol))
    (found : (pieces, rest) ∈ sequence patterns text) :
    pieces.flatten ++ rest = text ∧ List.Forall₂ Pattern.Yields patterns pieces := by
  induction patterns generalizing text pieces with
  | nil =>
    cases List.mem_singleton.mp found
    exact ⟨rfl, .nil⟩
  | cons pattern later ih =>
    obtain ⟨⟨piece, remaining⟩, first, others⟩ := List.mem_flatMap.mp found
    obtain ⟨⟨pieces', rest'⟩, inner, same⟩ := List.mem_map.mp others
    cases same
    obtain ⟨joined, yields⟩ := ih remaining pieces' inner
    refine ⟨?_, .cons ⟨text, remaining, first⟩ yields⟩
    rw [List.flatten_cons, List.append_assoc, joined]
    exact pattern.sound text piece remaining first

theorem yields_run {member : Symbol → Bool} {least : Nat} {piece : List Symbol}
    (yields : (Pattern.run member least).Yields piece) : ∀ symbol ∈ piece, member symbol = true := by
  obtain ⟨text, rest, found⟩ := yields
  obtain ⟨length, listed, same⟩ := List.mem_map.mp found
  cases same
  have bound : length ≤ (text.takeWhile member).length := by
    have ranged := List.mem_range.mp (List.mem_reverse.mp (List.mem_filter.mp listed).1)
    omega
  have inside : text.take length = (text.takeWhile member).take length := by
    have whole : text = text.takeWhile member ++ text.dropWhile member := List.takeWhile_append_dropWhile.symm
    conv_lhs => rw [whole, List.take_append_of_le_length bound]
  intro symbol present
  rw [inside] at present
  exact List.mem_takeWhile_imp (List.mem_of_mem_take present)

theorem sequence_greedy {member : Symbol → Bool} (patterns : List (Pattern Symbol)) (text rest : List Symbol)
    (pieces : List (List Symbol)) (all : ∀ symbol ∈ text, member symbol = true)
    (found : (sequence (patterns ++ [.run member 0]) text).head? = some (pieces, rest)) : rest = [] := by
  induction patterns generalizing text pieces with
  | nil =>
    have whole : text.takeWhile member = text := List.takeWhile_eq_self_iff.mpr all
    have first : (Pattern.run member 0).splits text =
        (text, []) :: ((List.range text.length).reverse.map fun length => (text.take length, text.drop length)) := by
      simp [Pattern.run, whole, List.range_succ]
    simp [sequence, first] at found
    exact found.2
  | cons pattern later ih =>
    rw [List.cons_append, sequence, List.head?_flatMap] at found
    obtain ⟨⟨piece, remaining⟩, listed, inner⟩ := List.exists_of_findSome?_eq_some found
    rw [List.head?_map] at inner
    obtain ⟨⟨pieces', rest'⟩, head, same⟩ := Option.map_eq_some_iff.mp inner
    cases same
    apply ih remaining pieces' _ head
    intro symbol present
    apply all
    rw [← pattern.sound text piece remaining listed]
    exact List.mem_append_right piece present

theorem search_greedy {member : Symbol → Bool} {patterns : List (Pattern Symbol)} {text : List Symbol}
    {pieces : List (List Symbol)} (all : ∀ symbol ∈ text, member symbol = true)
    (found : search (patterns ++ [.run member 0]) text = some pieces) :
    ∃ before, text = before ++ pieces.flatten ∧
      List.Forall₂ Pattern.Yields (patterns ++ [.run member 0]) pieces := by
  obtain ⟨start, listed, first⟩ := List.exists_of_findSome?_eq_some found
  obtain ⟨before, rfl⟩ := (List.mem_tails _ _).mp listed
  obtain ⟨⟨pieces', rest⟩, head, rfl⟩ := Option.map_eq_some_iff.mp first
  have ended : rest = [] := by
    apply sequence_greedy patterns start rest pieces' _ head
    intro symbol present
    exact all symbol (List.mem_append_right before present)
  subst ended
  obtain ⟨joined, yields⟩ := sequence_sound _ _ _ _ (List.mem_of_head? head)
  rw [List.append_nil] at joined
  exact ⟨before, by rw [joined], yields⟩

end Text
