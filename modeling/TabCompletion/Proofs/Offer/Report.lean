import TabCompletion.Proofs.Offer.Stem

/-! # What an offer tells of the names that exist -/

namespace TabCompletion

open Text

/-! ## Order -/

theorem ascending_perm (names : List String) : (ascending names).Perm names :=
  List.mergeSort_perm names _

theorem pairwise_ascending (names : List String) : (ascending names).Pairwise (· ≤ ·) := by
  have hsorted : (ascending names).Pairwise fun a b => decide (a ≤ b) = true := by
    refine List.pairwise_mergeSort ?_ ?_ names
    · intro a b c hab hbc
      simp only [decide_eq_true_eq] at hab hbc ⊢
      exact String.le_trans hab hbc
    · intro a b
      simpa using String.le_total a b
  simpa using hsorted

/-! ## Reports -/

namespace Offer

/-- An offer reports those of some names that begin with what was typed: it holds all of them, as
often as they occur and in ascending order, with the longest text that begins every one. Where there
are none, what was typed stays. -/
structure Reports (typed : String) (names : List String) (offer : Offer) : Prop where
  perm : offer.names.Perm (names.filter (beginsWith typed))
  ascending : offer.names.Pairwise (· ≤ ·)
  common_of_nil : offer.names = [] → offer.common = typed
  typed_prefix : typed.toList <+: offer.common.toList
  common_prefix : ∀ name ∈ offer.names, offer.common.toList <+: name.toList
  longest : offer.names ≠ [] → ∀ stem : List Char,
    (∀ name ∈ offer.names, stem <+: name.toList) → stem <+: offer.common.toList

theorem Reports.mem_iff {typed name : String} {names : List String} {offer : Offer}
    (h : offer.Reports typed names) :
    name ∈ offer.names ↔ name ∈ names ∧ typed.toList <+: name.toList := by
  rw [h.perm.mem_iff, List.mem_filter, beginsWith_iff]

theorem reports_nothing (typed : String) {names : List String}
    (h : names.filter (beginsWith typed) = []) : (nothing typed).Reports typed names := by
  refine ⟨?_, .nil, fun _ => rfl, List.prefix_rfl, ?_, ?_⟩
  · rw [h]
    exact .refl _
  · simp [nothing]
  · simp [nothing]

theorem names_ofCandidates (typed : String) (candidates : List String) :
    (ofCandidates typed candidates).names = TabCompletion.ascending candidates := by
  match candidates with
  | [] => simp [ofCandidates, nothing, TabCompletion.ascending]
  | [only] => simp [ofCandidates, TabCompletion.ascending]
  | first :: second :: rest => rfl

theorem isStem_ofCandidates {typed : String} {candidates : List String} (hne : candidates ≠ [])
    (h : ∀ name ∈ candidates, typed.toList <+: name.toList) :
    IsStem candidates (ofCandidates typed candidates).common := by
  match candidates with
  | [] => exact absurd rfl hne
  | [only] => exact ⟨by simp [ofCandidates], fun other hother => hother only (by simp)⟩
  | first :: second :: rest => exact isStem_sharedStem_of_all hne h

/-- Candidates that all begin with what was typed make an offer that reports them. -/
theorem reports_ofCandidates (typed : String) (names : List String) :
    (ofCandidates typed (names.filter (beginsWith typed))).Reports typed names := by
  by_cases hnil : names.filter (beginsWith typed) = []
  · rw [hnil]
    exact reports_nothing typed hnil
  · have hbegins : ∀ name ∈ names.filter (beginsWith typed), typed.toList <+: name.toList := by
      intro name hname
      exact prefix_of_mem_filter hname
    have hnames := names_ofCandidates typed (names.filter (beginsWith typed))
    have hperm := ascending_perm (names.filter (beginsWith typed))
    have hstem := isStem_ofCandidates hnil hbegins
    rw [← hnames] at hperm
    refine ⟨hperm, hnames ▸ pairwise_ascending _, ?_, hstem.longest typed hbegins, ?_, ?_⟩
    · intro hnone
      exact absurd (hnone ▸ hperm).nil_eq.symm hnil
    · exact (hstem.of_perm hperm.symm).begins
    · intro _ stem hall
      simpa using (hstem.of_perm hperm.symm).longest (String.ofList stem) (by simpa using hall)

end Offer

end TabCompletion
