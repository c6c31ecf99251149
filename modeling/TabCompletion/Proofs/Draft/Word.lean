import Mathlib.Data.List.DropRight
import TabCompletion.Draft
import TabCompletion.Transcript

/-! # The word of a draft

The word runs back from the end of the text to a blank or to a character that structures the script.
A line end that closes the text is passed over when the word is looked for, but not when the
characters before the cursor are counted. -/

namespace TabCompletion

namespace Draft

/-! ## Words -/

theorem isWordChar_iff (c : Char) :
    isWordChar c = true ↔ Text.isBlank c = false ∧ c ∉ structural := by
  simp [isWordChar]

theorem isWordChar_eq_false_iff (c : Char) :
    isWordChar c = false ↔ Text.isBlank c = true ∨ c ∈ structural := by
  rw [← Bool.not_eq_true, isWordChar_iff]
  by_cases h : Text.isBlank c = true <;> simp [h]

/-- The longest end of a text with a property, and what stands before it. -/
theorem exists_append_longestSuffix (p : Char → Bool) (text : List Char) :
    ∃ before, text = before ++ longestSuffix p text ∧
      (∀ c ∈ longestSuffix p text, p c = true) ∧
      ∀ c, before.getLast? = some c → p c = false := by
  refine ⟨text.rdropWhile p, List.rdropWhile_append_rtakeWhile.symm, ?_, ?_⟩
  · intro c hc
    exact List.mem_rtakeWhile_imp hc
  · intro c hc
    have hne : text.rdropWhile p ≠ [] := by
      intro hnil
      simp [hnil] at hc
    have hlast := List.rdropWhile_last_not p text hne
    rw [List.getLast?_eq_some_getLast hne, Option.some.injEq] at hc
    simpa [hc] using hlast

theorem longestSuffix_eq_nil {p : Char → Bool} {text : List Char} {c : Char}
    (hlast : text.getLast? = some c) (hc : p c = false) : longestSuffix p text = [] := by
  obtain ⟨before, rfl⟩ := List.getLast?_eq_some_iff.mp hlast
  exact List.rtakeWhile_concat_neg p before c (by simp [hc])

theorem withoutLineEnd_eq_self {text : List Char} (h : text.getLast? ≠ some '\n') :
    withoutLineEnd text = text := by
  rw [withoutLineEnd, ite_eq_right_iff]
  intro hlast
  exact absurd hlast h

/-- An empty word after a line end starts a new command. -/
theorem words_eq_nil {text : String} (hlast : text.toList.getLast? = some '\n')
    (hword : wordOf text.toList = []) : (ofText text).words = [] := by
  have hhead : headOf text.toList = text.toList := by simp [headOf, hword]
  have hcommand : commandOf text.toList = [] := by
    rw [commandOf, hhead]
    exact longestSuffix_eq_nil hlast (by decide)
  simp only [ofText, hcommand]
  decide

end Draft

/-! ## Edits of the word -/

/-- An edit goes on with the word at the end of a text. The characters that it replaces hold no
blank and none that structures a script, they reach back to such a character or to the start of the
text, and the edit begins with them. -/
def Edit.Extends (text : String) (edit : Edit) : Prop :=
  ∃ before word, text.toList = before ++ word ∧ word.length = edit.back ∧
    (∀ c ∈ word, Text.isBlank c = false ∧ c ∉ Draft.structural) ∧
    (∀ c, before.getLast? = some c → Text.isBlank c = true ∨ c ∈ Draft.structural) ∧
    word <+: edit.text.toList

namespace Draft

/-- An edit that begins with the word and replaces as many characters goes on with the word, unless
the text ends with a line end. -/
theorem extends_of_last_ne {text : String} {edit : Edit}
    (hback : edit.back = (wordOf text.toList).length)
    (hbegins : wordOf text.toList <+: edit.text.toList)
    (hlast : text.toList.getLast? ≠ some '\n') : edit.Extends text := by
  obtain ⟨before, htext, hword, hbefore⟩ :=
    exists_append_longestSuffix isWordChar (withoutLineEnd text.toList)
  refine ⟨before, wordOf text.toList, ?_, hback.symm, ?_, ?_, hbegins⟩
  · calc
      text.toList = withoutLineEnd text.toList := (withoutLineEnd_eq_self hlast).symm
      _ = before ++ wordOf text.toList := htext
  · intro c hc
    exact (isWordChar_iff c).mp (hword c hc)
  · intro c hc
    exact (isWordChar_eq_false_iff c).mp (hbefore c hc)

/-- After a line end, an edit that replaces anything replaces the line end. -/
theorem not_extends_of_last_eq {text : String} {edit : Edit} (hback : 0 < edit.back)
    (hlast : text.toList.getLast? = some '\n') : ¬ edit.Extends text := by
  rintro ⟨before, word, htext, hlength, hword, -, -⟩
  have hne : word ≠ [] := by
    rintro rfl
    simp only [List.length_nil] at hlength
    omega
  rw [htext, List.getLast?_append_of_ne_nil _ hne] at hlast
  have hblank := (hword '\n' (List.mem_of_getLast? hlast)).1
  exact absurd hblank (by decide)

end Draft

end TabCompletion
