import TabCompletion.Binding.Scripted

/-! # The failures of bindings

A binding fails when it runs a command, when it reads a result as a list and when it reads one as a
truth value. -/

namespace TabCompletion

namespace Binding

/-- A binding has no failures but those that are a binding's own. -/
structure FailsPlainly {β : Type} (binding : Binding β) : Prop where
  call : ∀ richValues words state e, (binding.call richValues words state).1 = .error e →
    ∃ message, e = .binding message
  items : ∀ result e, binding.items result = .error e → ∃ message, e = .binding message
  truth : ∀ result e, binding.truth result = .error e → ∃ message, e = .binding message

theorem plainItems_eq_error {result : Value} {e : Failure} (h : plainItems result = .error e) :
    ∃ message, e = .binding message := by
  unfold plainItems at h
  split at h
  · cases h
  · split at h
    · cases h
      exact ⟨_, rfl⟩
    · cases h

theorem plainTruth_eq_error {result : Value} {e : Failure} (h : plainTruth result = .error e) :
    ∃ message, e = .binding message := by
  cases result with
  | text s =>
      simp only [plainTruth] at h
      split at h
      · cases h
      · split at h
        · cases h
        · cases h
          exact ⟨_, rfl⟩
  | whole n => cases h
  | truth b => cases h
  | list items =>
      cases h
      exact ⟨_, rfl⟩
  | nothing =>
      cases h
      exact ⟨_, rfl⟩

end Binding

namespace ScriptedBinding

theorem take_eq_error {words : List Value} {richValues : Bool} {state : ScriptedBinding}
    {e : Failure} (h : (state.take words richValues).1 = .error e) :
    ∃ message, e = .binding message := by
  unfold take at h
  split at h
  · cases h
    exact ⟨_, rfl⟩
  · cases h
  · cases h
    exact ⟨_, rfl⟩

theorem failsPlainly : binding.FailsPlainly where
  call _ _ _ _ := take_eq_error
  items _ _ := Binding.plainItems_eq_error
  truth _ _ := Binding.plainTruth_eq_error

end ScriptedBinding

end TabCompletion
