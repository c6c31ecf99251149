import Mathlib.Data.List.Perm.Basic
import TabCompletion.Lookup
import TabCompletion.Proofs.Offer.Report

/-! # Offers do not depend on the order of the names found -/

namespace TabCompletion

variable {names names' : List String}

theorem ascending_eq_of_perm (h : names.Perm names') : ascending names = ascending names' := by
  have hperm : (ascending names).Perm (ascending names') :=
    (ascending_perm names).trans (h.trans (ascending_perm names').symm)
  refine hperm.eq_of_pairwise ?_ (pairwise_ascending names) (pairwise_ascending names')
  intro a b _ _ hab hba
  exact String.le_antisymm hab hba

/-- The stem is a greatest lower bound, so it is that of the names in any order. -/
theorem sharedStem_eq_of_perm (h : names.Perm names') (typed : String) :
    sharedStem names typed = sharedStem names' typed := by
  have hfound := h.filter (Text.beginsWith typed)
  by_cases hnil : names.filter (Text.beginsWith typed) = []
  · have hnil' : names'.filter (Text.beginsWith typed) = [] := (hnil ▸ hfound).nil_eq.symm
    rw [sharedStem_of_filter_eq_nil hnil, sharedStem_of_filter_eq_nil hnil']
  · have hne : names'.filter (Text.beginsWith typed) ≠ [] := by
      intro hnil'
      exact hnil (hnil' ▸ hfound).eq_nil
    exact ((isStem_sharedStem hnil).of_perm hfound).eq (isStem_sharedStem hne)

/-- Only from two names on can the order differ. -/
theorem eq_or_several_of_perm (h : names.Perm names') :
    names = names' ∨
      ∃ a b rest a' b' rest', names = a :: b :: rest ∧ names' = a' :: b' :: rest' := by
  match names, names' with
  | [], names' => exact .inl h.nil_eq
  | [only], names' => exact .inl (List.singleton_perm.mp h)
  | a :: b :: rest, [] => exact absurd h.length_eq (by simp)
  | a :: b :: rest, [only] => exact absurd h.length_eq (by simp)
  | a :: b :: rest, a' :: b' :: rest' => exact .inr ⟨a, b, rest, a', b', rest', rfl, rfl⟩

theorem Offer.ofCandidates_eq_of_perm (h : names.Perm names') (typed : String) :
    ofCandidates typed names = ofCandidates typed names' := by
  rcases eq_or_several_of_perm h with rfl | ⟨a, b, rest, a', b', rest', rfl, rfl⟩
  · rfl
  · simp only [ofCandidates, sharedStem_eq_of_perm h typed, ascending_eq_of_perm h]

theorem Lookup.offerElements_eq_of_perm (h : names.Perm names') (typed array element : String) :
    offerElements typed array element names = offerElements typed array element names' := by
  rcases eq_or_several_of_perm h with rfl | ⟨a, b, rest, a', b', rest', rfl, rfl⟩
  · rfl
  · simp only [offerElements, sharedStem_eq_of_perm h element,
      ascending_eq_of_perm (h.map (elementName array))]

end TabCompletion
