import TabCompletion.Proofs.Dialogue.Exchanges
import TabCompletion.World.Host

/-! # What scripts leave alone

Scripts make names and values. The interpreters of a world, its packages and its files stay as they
are, whatever is asked of it. -/

namespace TabCompletion

open Dialogue

namespace World

/-- The parts of a world that nothing changes. -/
def fixtures (w : World) : List String × List (String × String) × Files.Tree :=
  (w.interps, w.packages, w.files)

theorem fixtures_of_statement {w next : World} {words : List String} {value : String}
    (h : w.statement words = .ok (value, next)) : next.fixtures = w.fixtures := by
  unfold statement at h
  split at h
  all_goals try split at h
  all_goals cases h
  all_goals rfl

theorem fixtures_statements (w : World) (result : String) (script : List (List String)) :
    (w.statements result script).2.fixtures = w.fixtures := by
  induction script generalizing w result with
  | nil => rfl
  | cons words rest ih =>
      rw [statements]
      split
      · next value next hstatement => rw [ih next value, fixtures_of_statement hstatement]
      · rfl

theorem fixtures_enter (w : World) (ns : String) : (w.enter ns).fixtures = w.fixtures := by
  unfold enter
  split <;> rfl

theorem fixtures_evaluate (w : World) (interp ns script : String) :
    (w.evaluate interp ns script).2.fixtures = w.fixtures := by
  rw [evaluate]
  split
  · exact (fixtures_statements _ "" (parse script)).trans (fixtures_enter _ ns)
  · rfl

theorem fixtures_source (w : World) (path interp : String) :
    (w.source path interp).2.fixtures = w.fixtures := by
  rw [source]
  split
  · split
    · exact fixtures_statements (w.log _) "" _
    · rfl
    · rfl
  · rfl

theorem fixtures_require (w : World) (package interp : String) :
    (w.require package interp).2.fixtures = w.fixtures := by
  rw [require]
  split
  · split <;> rfl
  · rfl

theorem fixtures_host (request : Request) (w : World) :
    (host request w).2.fixtures = w.fixtures := by
  cases request with
  | query kind call => rfl
  | evaluate interp ns script => exact fixtures_evaluate w interp ns script
  | isComplete script => rfl
  | source path interp => exact fixtures_source w path interp
  | require package interp => exact fixtures_require w package interp

theorem interps_run {α : Type} (d : Dialogue α) (w : World) :
    (d.run host w).state.interps = w.interps := by
  have hfixtures := (run_replies (fun w w' : World => w'.fixtures = w.fixtures) (fun _ => rfl)
    (fun _ _ _ hfirst hlater => hlater.trans hfirst) fixtures_host d w).1
  exact congrArg Prod.fst hfixtures

end World

end TabCompletion
