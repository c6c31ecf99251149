import TabCompletion.Proofs.Offer.Columns
import TabCompletion.Proofs.Offer.Report

/-! # What becomes of candidates

The candidates that an interpreter names need not begin with what was typed. All of them are
offered, but of several only those that do begin with it determine the stem, so that the stem need
not begin the others. -/

namespace TabCompletion

open Text

namespace Offer

/-! ## Stems -/

/-- All candidates are offered in order. The stem of several is that of the candidates that begin
with what was typed, which are compared column by column, and what was typed if there are none. -/
theorem ofCandidates_reduces (typed : String) (candidates : List String) :
    let offer := ofCandidates typed candidates
    let begun := candidates.filter (beginsWith typed)
    offer.names.Perm candidates ∧ offer.names.Pairwise (· ≤ ·) ∧
      match candidates with
      | [] => offer.common = typed
      | [only] => offer.common = only
      | _ =>
        (begun = [] → offer.common = typed) ∧
        (begun ≠ [] →
          (∀ stem, IsStem begun stem ↔ stem = offer.common) ∧
          typed.toList <+: offer.common.toList ∧
          offer.common.toList = columnwise (begun.map String.toList)) := by
  have hnames := names_ofCandidates typed candidates
  refine ⟨hnames ▸ ascending_perm candidates, hnames ▸ pairwise_ascending candidates, ?_⟩
  match candidates with
  | [] => rfl
  | [only] => rfl
  | first :: second :: rest =>
      refine ⟨fun hnone => sharedStem_of_filter_eq_nil hnone, fun hbegun => ⟨?_, ?_, ?_⟩⟩
      · intro stem
        have hstem := isStem_sharedStem hbegun
        constructor
        · intro h
          exact h.eq hstem
        · rintro rfl
          exact hstem
      · exact typed_prefix_sharedStem _ typed
      · rw [columnwise_eq_meetAll]
        exact toList_sharedStem hbegun

/-! ## Coherence -/

/-- Every name that is offered begins with the stem. -/
def Coherent (offer : Offer) : Prop :=
  ∀ name ∈ offer.names, offer.common.toList <+: name.toList

/-- One candidate alone is its own stem. Several have a stem that begins them all exactly if they
all begin with what was typed: the stem does so in any case. -/
theorem coherent_ofCandidates_iff (typed : String) (candidates : List String) :
    (ofCandidates typed candidates).Coherent ↔
      candidates.length = 1 ∨ ∀ name ∈ candidates, typed.toList <+: name.toList := by
  match candidates with
  | [] => simp [Coherent, ofCandidates, nothing]
  | [only] => simp [Coherent, ofCandidates]
  | first :: second :: rest =>
      have hmem : ∀ name, name ∈ ascending (first :: second :: rest) ↔
          name ∈ first :: second :: rest := fun name => (ascending_perm _).mem_iff
      simp only [Coherent, ofCandidates, hmem]
      constructor
      · intro hbegins
        right
        intro name hname
        exact (typed_prefix_sharedStem _ typed).trans (hbegins name hname)
      · rintro (hone | htyped)
        · simp at hone
        · intro name hname
          exact sharedStem_prefix hname (beginsWith_iff.mpr (htyped name hname))

end Offer

end TabCompletion
