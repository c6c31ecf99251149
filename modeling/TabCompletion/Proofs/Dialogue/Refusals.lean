import TabCompletion.Proofs.Dialogue.Replies

/-! # Dialogues that may be refused -/

namespace TabCompletion.Dialogue

variable {α β : Type} {P : α → Prop} {Q : β → Prop} {replies : Replies}

/-- An outcome that has a property, or the refusal of a command. -/
def OkOrRefused (P : α → Prop) (outcome : Except Failure α) : Prop :=
  (∃ a, outcome = .ok a ∧ P a) ∨ ∃ r, outcome = .error (.rejected r)

theorem OkOrRefused.mono {P' : α → Prop} {outcome : Except Failure α} (h : OkOrRefused P outcome)
    (hP : ∀ a, P a → P' a) : OkOrRefused P' outcome := by
  rcases h with ⟨a, ha, hPa⟩ | hrefused
  · exact .inl ⟨a, ha, hP a hPa⟩
  · exact .inr hrefused

theorem okOrRefused_pure {a : α} (h : P a) :
    OkOrRefused P ((pure a : Dialogue α).outcome replies) :=
  .inl ⟨a, rfl, h⟩

theorem okOrRefused_bind {d : Dialogue α} {f : α → Dialogue β}
    (hd : OkOrRefused P (d.outcome replies))
    (hf : ∀ a, P a → OkOrRefused Q ((f a).outcome replies)) :
    OkOrRefused Q ((d >>= f).outcome replies) := by
  rcases hd with ⟨a, ha, hP⟩ | ⟨r, hr⟩
  · rw [outcome_bind_ok ha]
    exact hf a hP
  · exact .inr ⟨r, outcome_bind_error hr f⟩

theorem okOrRefused_map {d : Dialogue α} {f : α → β} (hd : OkOrRefused P (d.outcome replies))
    (hf : ∀ a, P a → Q (f a)) : OkOrRefused Q ((f <$> d).outcome replies) := by
  rw [← bind_pure_comp]
  exact okOrRefused_bind hd fun a ha => okOrRefused_pure (hf a ha)

/-- Where every refusal is rescued, nothing is left to go wrong. -/
theorem exists_ok_rescue {d : Dialogue α} {handler : Rejection → Dialogue α}
    (hd : OkOrRefused P (d.outcome replies))
    (hhandler : ∀ r, ∃ a, (handler r).outcome replies = .ok a ∧ P a) :
    ∃ a, (d.rescue handler).outcome replies = .ok a ∧ P a := by
  rw [outcome_rescue]
  rcases hd with ⟨a, ha, hP⟩ | ⟨r, hr⟩
  · rw [ha]
    exact ⟨a, rfl, hP⟩
  · rw [hr]
    exact hhandler r

end TabCompletion.Dialogue
