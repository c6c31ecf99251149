import Mathlib.Data.Nat.Basic
import TabCompletion.Text.Units

/-! # Texts are told by their units

A unit of a character below the surrogates stands for itself, and of a pair neither half does, so that
the units of a text can be told apart again. -/

namespace TabCompletion.Text

theorem charOf?_toNat (c : Char) : charOf? c.toNat = some c :=
  dif_pos c.valid

/-- The codes of characters end before the surrogates or begin after them. -/
theorem toNat_bounds (c : Char) : c.toNat < 0xd800 ∨ 0xdfff < c.toNat ∧ c.toNat < 0x110000 :=
  c.valid

theorem charOf?_of_surrogate {n : Nat} (hlow : 0xd800 ≤ n) (hhigh : n < 0xe000) :
    charOf? n = none := by
  rw [charOf?, dif_neg]
  rintro (h | h) <;> omega

theorem lt_of_mem_units {c : Char} {unit : Nat} (h : unit ∈ units c) : unit < 0x10000 := by
  have hbounds := toNat_bounds c
  unfold units at h
  split at h <;> simp only [List.mem_cons, List.not_mem_nil, or_false] at h <;> omega

/-- The two halves of a pair make the character again. -/
theorem pairedChar?_halves {c : Char} (h : ¬ c.toNat < 0x10000) :
    pairedChar? (0xd800 + (c.toNat - 0x10000) / 0x400) (0xdc00 + (c.toNat - 0x10000) % 0x400) =
      some c := by
  have hbounds := toNat_bounds c
  rw [pairedChar?, if_pos (by omega)]
  have hcode : 0x10000 + (0xd800 + (c.toNat - 0x10000) / 0x400 - 0xd800) * 0x400 +
      (0xdc00 + (c.toNat - 0x10000) % 0x400 - 0xdc00) = c.toNat := by omega
  rw [hcode, charOf?_toNat]

/-- A character has one unit, its code, or a pair that makes the character; the first unit of a pair
has no character of its own. -/
theorem units_eq (c : Char) :
    units c = [c.toNat] ∨
      ∃ high low, units c = [high, low] ∧ charOf? high = none ∧ pairedChar? high low = some c := by
  have hbounds := toNat_bounds c
  by_cases h : c.toNat < 0x10000
  · exact .inl (if_pos h)
  · have hhigh := charOf?_of_surrogate (n := 0xd800 + (c.toNat - 0x10000) / 0x400)
      (by omega) (by omega)
    exact .inr ⟨_, _, if_neg h, hhigh, pairedChar?_halves h⟩

theorem ofUnits?_units_append (c : Char) (rest : List Nat) :
    ofUnits? (units c ++ rest) = (c :: ·) <$> ofUnits? rest := by
  rcases units_eq c with hunits | ⟨high, low, hunits, hhigh, hpair⟩
  · rw [hunits, List.singleton_append, ofUnits?.eq_def]
    simp only [charOf?_toNat]
  · rw [hunits, List.cons_append, List.singleton_append, ofUnits?.eq_def]
    simp only [hhigh, hpair]
    cases ofUnits? rest <;> rfl

theorem ofUnits?_flatMap_units (text : List Char) : ofUnits? (text.flatMap units) = some text := by
  induction text with
  | nil => rfl
  | cons c rest ih => rw [List.flatMap_cons, ofUnits?_units_append, ih]; rfl

end TabCompletion.Text
