import Mathlib.Data.List.TakeDrop
import Mathlib.Data.List.TakeWhile
import TabCompletion.Proofs.Glob.Literal
import TabCompletion.Proofs.Lookup.Relaying
import TabCompletion.Proofs.Offer.Report
import TabCompletion.Proofs.World.Replies

/-! # Commands and variables of a world

Where a scope exists, a lookup reports the names that begin with what was typed, whatever characters
they hold; where it does not, the lookup is refused. -/

namespace TabCompletion

open Dialogue

/-! ## Array elements -/

namespace Lookup

/-- What holds no opening parenthesis is the beginning of a variable's name. -/
theorem arrayElement?_eq_none {typed : String} (h : '(' ∉ typed.toList) :
    arrayElement? typed = none := by
  have hrest : typed.toList.dropWhile (· ≠ '(') = [] := by
    rw [List.dropWhile_eq_nil_iff]
    intro c hc
    simpa using fun heq : c = '(' => h (heq ▸ hc)
  rw [arrayElement?, List.span_eq_takeWhile_dropWhile, hrest]

end Lookup

namespace World

variable {w : World} {scope : Scope}

/-! ## Outcomes -/

theorem outcome_commands (h : w.Hosts scope) (typed : String) :
    (Lookup.commands scope typed).outcome w.replies =
      .ok (Offer.ofCandidates typed (w.commands.filter (Text.beginsWith typed))) := by
  rw [Lookup.commands, outcome_query_bind (replies_commands h _), outcome_pure,
    Glob.filter_admits_startingWith]

theorem outcome_vars (h : w.Hosts scope) {typed : String} (htyped : '(' ∉ typed.toList) :
    (Lookup.vars scope typed).outcome w.replies =
      .ok (Offer.ofCandidates typed (w.variableNames.filter (Text.beginsWith typed))) := by
  rw [Lookup.vars, Lookup.arrayElement?_eq_none htyped]
  simp only
  rw [outcome_query_bind (replies_vars h _), outcome_pure, Glob.filter_admits_startingWith]

/-- A dialogue that starts with a query about a scope that does not exist is refused there. -/
theorem outcome_of_not_hosts {α : Type} (h : ¬ w.Hosts scope) (kind : Kind) (words : List String)
    (next : kind.Answer → Dialogue α) :
    ∃ r, (scope.query kind words >>= next).outcome w.replies = .error (.rejected r) := by
  obtain ⟨r, hr⟩ := replies_to_of_not_hosts h kind words
  exact ⟨r, outcome_bind_error ((outcome_query w.replies scope kind words).trans hr) next⟩

theorem outcome_vars_of_not_hosts (h : ¬ w.Hosts scope) (typed : String) :
    ∃ r, (Lookup.vars scope typed).outcome w.replies = .error (.rejected r) := by
  unfold Lookup.vars
  split
  · exact outcome_of_not_hosts h _ _ _
  · exact outcome_of_not_hosts h _ _ _

/-! ## Runs -/

/-- A lookup of commands, or of variables if no parenthesis was opened, reports the names of the
world. In a scope that does not exist every such lookup is refused. -/
theorem commands_vars_report_names (w : World) (scope : Scope) (typed : String) :
    (w.Hosts scope →
      (∃ offer, ((Lookup.commands scope typed).run host w).outcome = .ok offer ∧
        offer.Reports typed w.commands) ∧
      ('(' ∉ typed.toList →
        ∃ offer, ((Lookup.vars scope typed).run host w).outcome = .ok offer ∧
          offer.Reports typed (w.scalars.map Prod.fst ++ w.arrays.map Prod.fst))) ∧
    (¬ w.Hosts scope →
      (∃ r, ((Lookup.commands scope typed).run host w).outcome = .error (.rejected r)) ∧
      ∃ r, ((Lookup.vars scope typed).run host w).outcome = .error (.rejected r)) := by
  rw [run_outcome (Lookup.relays_commands scope typed).asks,
    run_outcome (Lookup.relays_vars scope typed).asks]
  constructor
  · intro h
    constructor
    · exact ⟨_, outcome_commands h typed, Offer.reports_ofCandidates typed w.commands⟩
    · intro htyped
      exact ⟨_, outcome_vars h htyped, Offer.reports_ofCandidates typed w.variableNames⟩
  · intro h
    exact ⟨outcome_of_not_hosts h _ _ _, outcome_vars_of_not_hosts h typed⟩

/-- A world of names that are patterns themselves. -/
def starred : World where
  commands := ["a*b", "a", "axb", "a*\\", "a*b"]
  scalars := [("a*", "1"), ("ab", "2")]
  arrays := [("a*[x]", ["k"])]

theorem commands_vars_report_starred :
    (∃ offer, ((Lookup.commands .main "a*").run host starred).outcome = .ok offer ∧
      offer.Reports "a*" ["a*b", "a", "axb", "a*\\", "a*b"]) ∧
    (∃ offer, ((Lookup.vars .main "a*").run host starred).outcome = .ok offer ∧
      offer.Reports "a*" ["a*", "ab", "a*[x]"]) ∧
    ∃ r, ((Lookup.vars (.of none (some "::lost")) "a*").run host starred).outcome =
      .error (.rejected r) := by
  have hmain : starred.Hosts .main := by decide
  have hlost : ¬ starred.Hosts (.of none (some "::lost")) := by decide
  obtain ⟨hcommands, hvars⟩ := (commands_vars_report_names starred .main "a*").1 hmain
  obtain ⟨-, hrefused⟩ :=
    (commands_vars_report_names starred (.of none (some "::lost")) "a*").2 hlost
  exact ⟨hcommands, hvars (by decide), hrefused⟩

end World

end TabCompletion
