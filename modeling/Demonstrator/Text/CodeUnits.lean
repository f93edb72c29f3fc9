import Mathlib.Data.List.Basic

namespace Text

def units (c : Char) : List Nat :=
  if c.toNat < 0x10000 then [c.toNat]
  else [0xD800 + (c.toNat - 0x10000) / 0x400, 0xDC00 + (c.toNat - 0x10000) % 0x400]

def codeUnits (text : List Char) : List Nat := text.flatMap units

theorem toNat_range (c : Char) : c.toNat < 0xD800 ∨ 0xDFFF < c.toNat ∧ c.toNat < 0x110000 := c.valid

theorem units_ne_nil (c : Char) : units c ≠ [] := by
  unfold units
  split <;> simp

theorem units_append_inj {c d : Char} {rest later : List Nat} (same : units c ++ rest = units d ++ later) :
    c = d ∧ rest = later := by
  have first := toNat_range c
  have second := toNat_range d
  suffices both : c.toNat = d.toNat ∧ rest = later from ⟨Char.toNat_inj.mp both.1, both.2⟩
  unfold units at same
  by_cases small : c.toNat < 0x10000 <;> by_cases small' : d.toNat < 0x10000
  · rw [if_pos small, if_pos small'] at same
    simpa using same
  · -- the first unit of a pair is no character of its own
    rw [if_pos small, if_neg small'] at same
    simp only [List.cons_append, List.nil_append, List.cons.injEq] at same
    omega
  · rw [if_neg small, if_pos small'] at same
    simp only [List.cons_append, List.nil_append, List.cons.injEq] at same
    omega
  · rw [if_neg small, if_neg small'] at same
    simp only [List.cons_append, List.nil_append, List.cons.injEq] at same
    exact ⟨by omega, same.2.2⟩

theorem codeUnits_injective : Function.Injective codeUnits := by
  intro left
  induction left with
  | nil =>
    intro right same
    cases right with
    | nil => rfl
    | cons d later =>
      rw [codeUnits, codeUnits, List.flatMap_nil, List.flatMap_cons, eq_comm, List.append_eq_nil_iff] at same
      exact absurd same.1 (units_ne_nil d)
  | cons c rest ih =>
    intro right same
    cases right with
    | nil =>
      rw [codeUnits, codeUnits, List.flatMap_nil, List.flatMap_cons, List.append_eq_nil_iff] at same
      exact absurd same.1 (units_ne_nil c)
    | cons d later =>
      rw [codeUnits, codeUnits, List.flatMap_cons, List.flatMap_cons] at same
      obtain ⟨rfl, others⟩ := units_append_inj same
      rw [ih others]

end Text
