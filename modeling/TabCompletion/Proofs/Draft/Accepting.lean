import TabCompletion.Proofs.Draft.Word

/-! # Accepting an edit

An edit that goes on with the word before the cursor leaves all that stands before the word. What is
put in the place of the word is the new word, as long as it could have been typed as one. -/

namespace TabCompletion

/-- A text whose end an edit has replaced. -/
def Edit.appliedTo (edit : Edit) (text : String) : String :=
  String.ofList (text.toList.take (text.length - edit.back) ++ edit.text.toList)

namespace Draft

/-- A name that can be typed as one word. -/
def IsWord (name : String) : Prop :=
  ∀ c ∈ name.toList, isWordChar c = true

instance (name : String) : Decidable (IsWord name) :=
  decidable_of_iff (name.toList.all isWordChar = true) List.all_eq_true

/-! ## The longest end -/

theorem longestSuffix_append_of_all {p : Char → Bool} {word : List Char}
    (h : ∀ c ∈ word, p c = true) (before : List Char) :
    longestSuffix p (before ++ word) = longestSuffix p before ++ word := by
  have hreverse : ∀ c ∈ word.reverse, p c = true := by simpa using h
  simp [longestSuffix, List.takeWhile_append_of_pos hreverse]

/-- Where a text can be split between characters with and without a property, the end is found. -/
theorem longestSuffix_append {p : Char → Bool} {before word : List Char}
    (hword : ∀ c ∈ word, p c = true) (hbefore : ∀ c, before.getLast? = some c → p c = false) :
    longestSuffix p (before ++ word) = word := by
  have hstart : longestSuffix p before = [] := by
    cases hlast : before.getLast? with
    | none => rw [List.getLast?_eq_none_iff.mp hlast]; rfl
    | some c => exact longestSuffix_eq_nil hlast (hbefore c hlast)
  rw [longestSuffix_append_of_all hword, hstart, List.nil_append]

/-! ## The draft after an edit -/

/-- A text that ends in a word, with all that stands before it. -/
structure EndsIn (before word text : List Char) : Prop where
  split : text = before ++ word
  word : ∀ c ∈ word, isWordChar c = true
  before : ∀ c, before.getLast? = some c → isWordChar c = false
  last : text.getLast? ≠ some '\n'

theorem exists_endsIn {text : List Char} (hlast : text.getLast? ≠ some '\n') :
    ∃ before, EndsIn before (wordOf text) text := by
  obtain ⟨before, hsplit, hword, hbefore⟩ := exists_append_longestSuffix isWordChar text
  have hwordOf : wordOf text = longestSuffix isWordChar text := by
    rw [wordOf, withoutLineEnd_eq_self hlast]
  rw [← hwordOf] at hsplit hword
  exact ⟨before, hsplit, hword, hbefore, hlast⟩

theorem EndsIn.wordOf_eq {before word text : List Char} (h : EndsIn before word text) :
    wordOf text = word := by
  rw [wordOf, withoutLineEnd_eq_self h.last, h.split, longestSuffix_append h.word h.before]

theorem EndsIn.headOf_eq {before word text : List Char} (h : EndsIn before word text) :
    headOf text = before := by
  rw [headOf, h.wordOf_eq, h.split]
  simp

/-- Another word may take the place of the word that a text ends in, as long as it goes on with it:
an empty word could uncover a line end. -/
theorem EndsIn.replace {before word text next : List Char} (h : EndsIn before word text)
    (hnext : ∀ c ∈ next, isWordChar c = true) (hbegins : word <+: next) :
    EndsIn before next (before ++ next) := by
  refine ⟨rfl, hnext, h.before, ?_⟩
  intro hlast
  by_cases hnil : next = []
  · subst hnil
    have htext : text = before ++ [] := by rw [h.split, List.prefix_nil.mp hbegins]
    exact h.last (htext ▸ hlast)
  · rw [List.getLast?_append_of_ne_nil _ hnil] at hlast
    exact absurd (hnext '\n' (List.mem_of_getLast? hlast)) (by decide)

/-- An edit that goes on with the word leaves the finished words as they are, and its own text is the
word then. -/
theorem ofText_appliedTo {text : String} {edit : Edit} (hlast : text.toList.getLast? ≠ some '\n')
    (hback : edit.back = (wordOf text.toList).length)
    (hbegins : wordOf text.toList <+: edit.text.toList) (hword : IsWord edit.text) :
    ofText (edit.appliedTo text) = ⟨(ofText text).words, edit.text⟩ := by
  obtain ⟨before, hends⟩ := exists_endsIn hlast
  have hkept : text.toList.take (text.length - edit.back) = before := by
    rw [hback]
    exact hends.headOf_eq
  have happlied := hends.replace hword hbegins
  rw [Edit.appliedTo, hkept]
  simp only [ofText, commandOf, String.toList_ofList, happlied.headOf_eq, happlied.wordOf_eq,
    hends.headOf_eq, String.ofList_toList]

end Draft

end TabCompletion
