import TabCompletion.Proofs.Lookup.Consulting

/-! # Lookups relay

Whatever the replies, a lookup puts queries about its own scope and makes no other request, and it
fails only where one of them does. Completing rescues the refusals among these failures. -/

namespace TabCompletion

open Dialogue

variable (scope : Scope)

namespace Lookup

theorem relays_commands (typed : String) : (commands scope typed).Relays scope.Covers :=
  (consults_commands scope typed).relays_covers

theorem relays_vars (typed : String) : (vars scope typed).Relays scope.Covers :=
  (consults_vars scope typed).relays_covers

theorem relays_methods (typed : String) (tag : ObjectSystem.Tag) (token : String) :
    (methods scope typed tag token).Relays scope.Covers :=
  (consults_methods scope typed tag token).relays_covers

end Lookup

namespace Completer

/-- What stands behind the edits before refusals are rescued. -/
theorem relays_editsFor (completer : Completer) (text : String) :
    (editsFor <$> completer.resolve scope text).Relays scope.Covers :=
  ((consults_resolve scope completer text).map editsFor).relays_covers

theorem asks_edits (completer : Completer) (text : String) :
    (completer.edits scope text).Asks scope.Covers := by
  refine (relays_editsFor scope completer text).asks.rescue ?_
  intro r
  exact .tell _ (.done [])

/-- Asking for edits fails exactly where a reply fails without being a refusal. -/
theorem outcome_run_edits_eq_error_iff {σ : Type} (host : Host σ) (completer : Completer)
    (text : String) (s : σ) (e : Failure) :
    ((completer.edits scope text).run host s).outcome = .error e ↔
      (∀ r, e ≠ .rejected r) ∧
        ∃ visit ∈ (completer.edits scope text).visits host s,
          (host visit.1 visit.2).1 = .error e := by
  rw [edits, visits_rescue (fun _ _ => rfl),
    outcome_run_rescue_eq_error_iff (fun _ _ => ⟨[], rfl⟩),
    (relays_editsFor scope completer text).outcome_run_eq_error_iff]

end Completer

end TabCompletion
